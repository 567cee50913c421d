import BlindNet.Lib.Layout

/-!
# Numbers in groups of seven bits

A number is written in bytes of seven bits, lowest first, and the high bit of a
byte says that another follows. Both directions handle at most a given number of
bytes; a number that needs no more is read back with whatever stood behind it.
-/

namespace VarLength

set_option autoImplicit false

open ByteLayout

def more : UInt8 := 0x80

def group (value : Nat) : UInt8 :=
  if 0 < value / 128 then UInt8.ofNat (value % 128) ||| more else UInt8.ofNat (value % 128)

def encode : Nat → Nat → List UInt8
  | 0, _ => []
  | room + 1, value =>
      group value :: if 0 < value / 128 then encode room (value / 128) else []

def decode : Nat → List UInt8 → Option (Nat × List UInt8)
  | 0, _ => none
  | _ + 1, [] => none
  | room + 1, byte :: rest =>
      if byte &&& more = 0 then
        some (byte.toNat % 128, rest)
      else do
        let (value, suffix) ← decode room rest
        some (byte.toNat % 128 + 128 * value, suffix)

theorem group_bits (low : Fin 128) :
    (UInt8.ofNat low).toNat % 128 = low ∧ UInt8.ofNat low &&& more = 0 ∧
      (UInt8.ofNat low ||| more).toNat % 128 = low ∧
      (UInt8.ofNat low ||| more) &&& more ≠ 0 := by
  revert low
  decide

theorem group_low (value : Nat) : (group value).toNat % 128 = value % 128 := by
  have bits := group_bits ⟨value % 128, Nat.mod_lt _ (by decide)⟩
  unfold group
  split
  · exact bits.2.2.1
  · exact bits.1

theorem group_last_iff (value : Nat) : group value &&& more = 0 ↔ value / 128 = 0 := by
  have bits := group_bits ⟨value % 128, Nat.mod_lt _ (by decide)⟩
  unfold group
  split
  · exact ⟨fun last => absurd last bits.2.2.2, fun zero => by omega⟩
  · exact ⟨fun _ => by omega, fun _ => bits.2.1⟩

theorem decode_encode {room value : Nat} (fits : value < 128 ^ room) (positive : 0 < room)
    (suffix : List UInt8) : decode room (encode room value ++ suffix) = some (value, suffix) := by
  induction room generalizing value with
  | zero => omega
  | succ room induction =>
      rw [encode, List.cons_append, decode]
      by_cases last : value / 128 = 0
      · rw [if_pos ((group_last_iff value).mpr last), if_neg (by omega), group_low]
        rw [Nat.mod_eq_of_lt (by omega), List.nil_append]
      · obtain ⟨smaller, left⟩ := next_digit_fits fits last
        rw [if_neg (mt (group_last_iff value).mp last), if_pos (Nat.pos_of_ne_zero last),
          induction smaller left, group_low]
        change some (value % 128 + 128 * (value / 128), suffix) = some (value, suffix)
        rw [Nat.mod_add_div]

theorem encode_short {count value : Nat} (positive : 0 < count) (small : value < 128 ^ count)
    (room : Nat) : (encode room value).length ≤ count := by
  induction count generalizing room value with
  | zero => omega
  | succ count induction =>
      cases room with
      | zero => simp [encode]
      | succ room =>
          rw [encode, List.length_cons]
          split
          · rename_i another
            obtain ⟨smaller, left⟩ := next_digit_fits small another.ne'
            exact Nat.succ_le_succ (induction left smaller room)
          · simp

end VarLength
