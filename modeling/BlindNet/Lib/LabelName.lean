import BlindNet.Lib.Layout
import Mathlib.Data.List.Basic

/-!
# Names as sequences of labels

On the wire a label of 1 to 63 bytes stands behind a byte with its length. Labels are
read up to a byte that is no length of a label inside the input, and written out with
dots between them.
-/

namespace LabelName

set_option autoImplicit false

open ByteLayout

def IsLabel (label : Bytes) : Prop := 0 < label.length ∧ label.length < 64

def AreLabels (labels : List Bytes) : Prop := ∀ label ∈ labels, IsLabel label

def encodeLabel (label : Bytes) : Bytes := UInt8.ofNat label.length :: label

def encode (labels : List Bytes) : Bytes := labels.flatMap encodeLabel

def joined (labels : List Bytes) : Bytes := [46].intercalate labels

def readLabel : Bytes → Option (Bytes × Bytes)
  | [] => none
  | size :: rest =>
      if size = 0 ∨ 64 ≤ size.toNat ∨ rest.length < size.toNat then none
      else some (rest.take size.toNat, rest.drop size.toNat)

/-- Every label takes at least a byte, so the length of the input is enough fuel. -/
def readLabels : Nat → Bytes → List Bytes × Bytes
  | 0, bytes => ([], bytes)
  | fuel + 1, bytes =>
      match readLabel bytes with
      | none => ([], bytes)
      | some (label, rest) => (label :: (readLabels fuel rest).1, (readLabels fuel rest).2)

def splitLabels (bytes : Bytes) : List Bytes × Bytes := readLabels bytes.length bytes

/-! ## One label -/

theorem label_size {label : Bytes} (isLabel : IsLabel label) :
    (UInt8.ofNat label.length).toNat = label.length := by
  rw [UInt8.toNat_ofNat']
  exact Nat.mod_eq_of_lt (Nat.lt_trans isLabel.2 (by decide))

theorem label_size_ne_zero {label : Bytes} (isLabel : IsLabel label) :
    UInt8.ofNat label.length ≠ 0 := by
  intro zero
  have empty := congrArg UInt8.toNat zero
  rw [label_size isLabel] at empty
  exact Nat.ne_of_gt isLabel.1 empty

theorem encode_label_append (label rest : Bytes) :
    encodeLabel label ++ rest = UInt8.ofNat label.length :: (label ++ rest) := rfl

theorem read_label_encode {label : Bytes} (isLabel : IsLabel label) (rest : Bytes) :
    readLabel (encodeLabel label ++ rest) = some (label, rest) := by
  have stays : ¬ (UInt8.ofNat label.length = 0 ∨ 64 ≤ (UInt8.ofNat label.length).toNat ∨
      (label ++ rest).length < (UInt8.ofNat label.length).toNat) := by
    rw [label_size isLabel, List.length_append]
    rintro (zero | large | short)
    · exact label_size_ne_zero isLabel zero
    · exact Nat.not_le_of_lt isLabel.2 large
    · omega
  rw [encode_label_append, readLabel, if_neg stays, label_size isLabel, List.take_left' rfl,
    List.drop_left' rfl]

theorem read_label_sound {bytes label rest : Bytes}
    (read : readLabel bytes = some (label, rest)) :
    IsLabel label ∧ bytes = encodeLabel label ++ rest := by
  cases bytes with
  | nil => simp [readLabel] at read
  | cons size behind =>
      by_cases stops : size = 0 ∨ 64 ≤ size.toNat ∨ behind.length < size.toNat
      · simp [readLabel, stops] at read
      · simp only [readLabel, if_neg stops, Option.some.injEq, Prod.mk.injEq] at read
        obtain ⟨rfl, rfl⟩ := read
        have nonzero : size.toNat ≠ 0 := by
          intro zero
          exact stops (.inl (UInt8.toNat_inj.mp zero))
        have length : (behind.take size.toNat).length = size.toNat := by
          rw [List.length_take]
          omega
        constructor
        · unfold IsLabel
          omega
        · rw [encode_label_append, length, UInt8.ofNat_toNat, List.take_append_drop]

/-! ## All labels -/

theorem are_labels_cons {label : Bytes} {labels : List Bytes} :
    AreLabels (label :: labels) ↔ IsLabel label ∧ AreLabels labels :=
  List.forall_mem_cons

theorem encode_cons_append (label : Bytes) (labels : List Bytes) (tail : Bytes) :
    encode (label :: labels) ++ tail = encodeLabel label ++ (encode labels ++ tail) := by
  rw [encode, List.flatMap_cons, List.append_assoc, encode]

theorem encode_cons_length (label : Bytes) (labels : List Bytes) :
    (encode (label :: labels)).length = 1 + label.length + (encode labels).length := by
  rw [encode, List.flatMap_cons, List.length_append, encodeLabel, List.length_cons, encode]
  omega

/-- Fuel for a label and what follows it is fuel for what follows it after a turn. -/
theorem fuel_after_label {fuel : Nat} {label rest : Bytes}
    (enough : (encodeLabel label ++ rest).length ≤ fuel) :
    ∃ less, fuel = less + 1 ∧ label.length + rest.length ≤ less := by
  rw [encode_label_append, List.length_cons, List.length_append] at enough
  exact ⟨fuel - 1, by omega, by omega⟩

theorem read_labels_sound {fuel : Nat} {bytes : Bytes} (enough : bytes.length ≤ fuel) :
    AreLabels (readLabels fuel bytes).1 ∧
      bytes = encode (readLabels fuel bytes).1 ++ (readLabels fuel bytes).2 ∧
      readLabel (readLabels fuel bytes).2 = none := by
  induction fuel generalizing bytes with
  | zero =>
      have empty : bytes = [] := List.eq_nil_of_length_eq_zero (Nat.le_zero.mp enough)
      subst empty
      exact ⟨by simp [AreLabels, readLabels], rfl, rfl⟩
  | succ fuel induction =>
      cases read : readLabel bytes with
      | none =>
          simp only [readLabels, read]
          exact ⟨by simp [AreLabels], rfl, trivial⟩
      | some pair =>
          obtain ⟨label, rest⟩ := pair
          obtain ⟨isLabel, bytes_eq⟩ := read_label_sound read
          have less : rest.length ≤ fuel := by
            rw [bytes_eq] at enough
            obtain ⟨_, turn, behind⟩ := fuel_after_label enough
            omega
          obtain ⟨labels, rest_eq, stops⟩ := induction less
          simp only [readLabels, read]
          refine ⟨are_labels_cons.mpr ⟨isLabel, labels⟩, ?_, stops⟩
          rw [encode_cons_append, ← rest_eq]
          exact bytes_eq

theorem read_labels_encode {fuel : Nat} {labels : List Bytes} {tail : Bytes}
    (areLabels : AreLabels labels) (stops : readLabel tail = none)
    (enough : (encode labels ++ tail).length ≤ fuel) :
    readLabels fuel (encode labels ++ tail) = (labels, tail) := by
  induction labels generalizing fuel with
  | nil =>
      cases fuel with
      | zero => rfl
      | succ fuel =>
          change readLabels (fuel + 1) tail = _
          simp only [readLabels, stops]
  | cons label labels induction =>
      obtain ⟨isLabel, others⟩ := are_labels_cons.mp areLabels
      rw [encode_cons_append] at enough ⊢
      obtain ⟨less, rfl, behind⟩ := fuel_after_label enough
      have inner := @induction less others (by omega)
      simp only [readLabels, read_label_encode isLabel, inner]

theorem split_labels_sound (bytes : Bytes) :
    AreLabels (splitLabels bytes).1 ∧
      bytes = encode (splitLabels bytes).1 ++ (splitLabels bytes).2 ∧
      readLabel (splitLabels bytes).2 = none :=
  read_labels_sound (Nat.le_refl _)

theorem split_labels_encode {labels : List Bytes} {tail : Bytes} (areLabels : AreLabels labels)
    (stops : readLabel tail = none) : splitLabels (encode labels ++ tail) = (labels, tail) :=
  read_labels_encode areLabels stops (Nat.le_refl _)

/-! ## Dots -/

theorem joined_cons (label : Bytes) (labels : List Bytes) :
    joined (label :: labels) = label ++ labels.flatMap (46 :: ·) := by
  induction labels generalizing label with
  | nil => simp [joined]
  | cons next labels induction =>
      have inner := induction next
      unfold joined at inner ⊢
      rw [List.intercalate_cons_cons, inner, List.flatMap_cons]
      simp

theorem joined_eq_nil_iff {labels : List Bytes} (areLabels : AreLabels labels) :
    joined labels = [] ↔ labels = [] := by
  cases labels with
  | nil => simp [joined]
  | cons label labels =>
      have begun := List.ne_nil_of_length_pos (areLabels label List.mem_cons_self).1
      rw [joined_cons]
      simp [begun]

theorem mem_joined {labels : List Bytes} {byte : UInt8} (member : byte ∈ joined labels) :
    byte = 46 ∨ ∃ label ∈ labels, byte ∈ label := by
  cases labels with
  | nil => simp [joined] at member
  | cons label labels =>
      rw [joined_cons, List.mem_append, List.mem_flatMap] at member
      rcases member with first | ⟨next, inside, behind⟩
      · exact .inr ⟨label, List.mem_cons_self, first⟩
      · rcases List.mem_cons.mp behind with dot | behind
        · exact .inl dot
        · exact .inr ⟨next, List.mem_cons_of_mem _ inside, behind⟩

end LabelName
