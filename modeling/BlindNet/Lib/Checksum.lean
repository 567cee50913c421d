import Mathlib.Logic.Function.Basic

/-!
# Checksums that tell one changed byte

A hash that folds the bytes of a message one by one tells any change of a single byte if
each step is injective in the state and in the byte: the states part at the changed byte and
no later step brings them together. An image that carries the hash of its own first bytes
behind them is then broken by every change of one byte, of the message or of the hash.
-/

namespace Checksum

set_option autoImplicit false

variable {Byte State : Type}

/-- Two messages that differ at one position and nowhere else. -/
def OneApart (first second : List Byte) : Prop :=
  ∃ before old new after, old ≠ new ∧ first = before ++ old :: after ∧
    second = before ++ new :: after

theorem one_apart_set {message : List Byte} {index : Nat} {byte : Byte}
    (inside : index < message.length) (differs : byte ≠ message[index]) :
    OneApart message (message.set index byte) := by
  refine ⟨message.take index, message[index], byte, message.drop (index + 1), differs.symm, ?_, ?_⟩
  · rw [List.getElem_cons_drop, List.take_append_drop]
  · rw [List.set_eq_take_append_cons_drop, if_pos inside]

theorem OneApart.ne {first second : List Byte} (apart : OneApart first second) :
    first ≠ second := by
  rcases apart with ⟨before, old, new, after, differs, isFirst, isSecond⟩
  rw [isFirst, isSecond]
  intro same
  have tails := List.append_cancel_left same
  rw [List.cons.injEq] at tails
  exact differs tails.1

/-- A cut leaves the difference on one side. -/
theorem OneApart.cut {first second : List Byte} (apart : OneApart first second) (size : Nat) :
    (OneApart (first.take size) (second.take size) ∧ first.drop size = second.drop size) ∨
      (first.take size = second.take size ∧ OneApart (first.drop size) (second.drop size)) := by
  rcases apart with ⟨before, old, new, after, differs, isFirst, isSecond⟩
  rw [isFirst, isSecond]
  by_cases early : before.length < size
  · left
    obtain ⟨rest, isSize⟩ : ∃ rest, size = before.length + (rest + 1) :=
      ⟨size - before.length - 1, by omega⟩
    rw [isSize, List.take_length_add_append, List.take_length_add_append,
      List.drop_length_add_append, List.drop_length_add_append]
    exact ⟨⟨before, old, new, after.take rest, differs, rfl, rfl⟩, rfl⟩
  · right
    rw [List.take_append_of_le_length (by omega), List.take_append_of_le_length (by omega),
      List.drop_append_of_le_length (by omega), List.drop_append_of_le_length (by omega)]
    exact ⟨rfl, before.drop size, old, new, after, differs, rfl, rfl⟩

/-! ## Folded hashes -/

/-- A step from which the state and the byte can each be told, given the other. -/
structure Tells (step : State → Byte → State) : Prop where
  state : ∀ byte, Function.Injective fun state => step state byte
  byte : ∀ state, Function.Injective (step state)

theorem Tells.fold_injective {step : State → Byte → State} (tells : Tells step)
    (message : List Byte) : Function.Injective fun state => message.foldl step state := by
  induction message with
  | nil => exact fun _ _ same => same
  | cons byte rest induction =>
      intro first second same
      apply tells.state byte
      exact induction same

theorem Tells.fold_one_apart {step : State → Byte → State} (tells : Tells step)
    {first second : List Byte} (apart : OneApart first second) (state : State) :
    first.foldl step state ≠ second.foldl step state := by
  rcases apart with ⟨before, old, new, after, differs, isFirst, isSecond⟩
  rw [isFirst, isSecond, List.foldl_append, List.foldl_append, List.foldl_cons, List.foldl_cons]
  intro same
  apply differs
  apply tells.byte (before.foldl step state)
  exact tells.fold_injective after same

/-- A word mixed with a byte and multiplied by an invertible factor. -/
theorem xor_mul_tells {factor inverse : UInt32} (unit : factor * inverse = 1) :
    Tells fun (hash : UInt32) (byte : UInt8) => (hash ^^^ byte.toUInt32) * factor := by
  have cancel : ∀ {first second : UInt32}, first * factor = second * factor → first = second := by
    intro first second same
    have again := congrArg (· * inverse) same
    simp only [UInt32.mul_assoc, unit, UInt32.mul_one] at again
    exact again
  constructor
  · intro byte first second same
    exact (UInt32.xor_left_inj _).mp (cancel same)
  · intro hash first second same
    exact UInt8.toUInt32_inj.mp ((UInt32.xor_right_inj hash).mp (cancel same))

/-! ## Sealed images -/

/-- The bytes behind the first `size` are the digest of these. -/
def Sealed (size : Nat) (digest : List Byte → List Byte) (image : List Byte) : Prop :=
  image.drop size = digest (image.take size)

theorem Sealed.broken {size : Nat} {digest : List Byte → List Byte}
    (tells : ∀ {first second}, OneApart first second → digest first ≠ digest second)
    {image corrupted : List Byte} (whole : Sealed size digest image)
    (apart : OneApart image corrupted) : ¬ Sealed size digest corrupted := by
  intro again
  unfold Sealed at whole again
  rcases apart.cut size with ⟨message, sameDigest⟩ | ⟨sameMessage, stored⟩
  · apply tells message
    rw [← whole, ← again, sameDigest]
  · apply stored.ne
    rw [whole, again, sameMessage]

end Checksum
