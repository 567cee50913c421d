import Mathlib.Data.Finset.Basic
import Mathlib.Data.Finset.Filter
import Mathlib.Data.Finset.Range

/-!
# Sets of small indices in a machine word

A word read as the set of its bit positions: setting a bit inserts, testing a
bit is membership, and the word with the lowest bits set is an initial range.
-/

namespace BitMask

set_option autoImplicit false

variable {width : Nat}

def bit (width index : Nat) : BitVec width := BitVec.ofNat width 1 <<< index

/-- The word with the lowest `count` bits set, written without shifting by the
full width. -/
def lowest (width count : Nat) : BitVec width :=
  if count = width then BitVec.allOnes width else bit width count - BitVec.ofNat width 1

def indices (mask : BitVec width) : Finset Nat :=
  (Finset.range width).filter fun index => mask.getLsbD index = true

theorem mem_indices (mask : BitVec width) (index : Nat) :
    index ∈ indices mask ↔ mask.getLsbD index = true := by
  rw [indices, Finset.mem_filter, Finset.mem_range]
  constructor
  · exact fun both => both.2
  · exact fun held => ⟨BitVec.lt_of_getLsbD held, held⟩

theorem indices_injective : Function.Injective fun mask : BitVec width => indices mask := by
  intro first second same
  apply BitVec.eq_of_getLsbD_eq
  intro index _
  have agree : first.getLsbD index = true ↔ second.getLsbD index = true := by
    rw [← mem_indices, ← mem_indices]
    exact iff_of_eq (congrArg (index ∈ ·) same)
  exact Bool.eq_iff_iff.mpr agree

theorem bit_eq_two_pow (index : Nat) : bit width index = BitVec.twoPow width index :=
  (BitVec.twoPow_eq width index).symm

theorem and_bit_eq_zero (mask : BitVec width) {index : Nat} (inside : index < width) :
    mask &&& bit width index = BitVec.ofNat width 0 ↔ index ∉ indices mask := by
  have nonzero : BitVec.twoPow width index ≠ BitVec.ofNat width 0 := by
    intro zero
    have read := congrArg (fun word : BitVec width => word.getLsbD index) zero
    simp [inside] at read
  rw [bit_eq_two_pow, BitVec.and_twoPow, mem_indices]
  by_cases held : mask.getLsbD index = true
  · simp [held, nonzero]
  · simp [held]

theorem indices_or_bit (mask : BitVec width) {index : Nat} (inside : index < width) :
    indices (mask ||| bit width index) = insert index (indices mask) := by
  ext other
  rw [Finset.mem_insert, mem_indices, mem_indices, bit_eq_two_pow, BitVec.getLsbD_or,
    BitVec.getLsbD_twoPow]
  simp only [Bool.or_eq_true, inside, decide_true, Bool.true_and, decide_eq_true_eq]
  constructor
  · intro either
    rcases either with held | set
    · exact Or.inr held
    · exact Or.inl set.symm
  · intro either
    rcases either with set | held
    · exact Or.inr set.symm
    · exact Or.inl held

@[simp] theorem indices_zero : indices (BitVec.ofNat width 0) = ∅ := by
  ext index
  simp [mem_indices]

theorem indices_lowest {count : Nat} (inside : count ≤ width) :
    indices (lowest width count) = Finset.range count := by
  ext index
  rw [mem_indices, Finset.mem_range, lowest]
  by_cases whole : count = width
  · rw [if_pos whole, BitVec.getLsbD_allOnes, decide_eq_true_iff, whole]
  · have smaller : 2 ^ count < 2 ^ width := Nat.pow_lt_pow_right (by decide) (by omega)
    have positive : 0 < 2 ^ count := Nat.pow_pos (by decide)
    have value : (bit width count - BitVec.ofNat width 1).toNat = 2 ^ count - 1 := by
      rw [bit_eq_two_pow, BitVec.toNat_sub_of_le]
      · rw [BitVec.toNat_twoPow, Nat.mod_eq_of_lt smaller, BitVec.toNat_ofNat,
          Nat.mod_eq_of_lt (by omega)]
      · rw [BitVec.le_def, BitVec.toNat_twoPow, Nat.mod_eq_of_lt smaller, BitVec.toNat_ofNat,
          Nat.mod_eq_of_lt (by omega)]
        exact positive
    rw [if_neg whole, BitVec.getLsbD, value, Nat.testBit_two_pow_sub_one, decide_eq_true_iff]

end BitMask
