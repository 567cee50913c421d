import Mathlib.Data.List.TakeDrop

/-!
# Operations that stop when they leave their range

Indexing, slicing, copying and shifting as partial operations. A computation
written with them yields a value exactly when none of its accesses leaves its
range, so that "this code never does" is an equation with `Except.ok`.
-/

namespace Bounds

set_option autoImplicit false

inductive Fault where
  | index
  | slice
  | copy
  | shift
  | underflow
  deriving DecidableEq

abbrev Checked := Except Fault

variable {Value : Type}

def read (items : List Value) (index : Nat) : Checked Value :=
  match items[index]? with
  | some item => .ok item
  | none => .error .index

def write (items : List Value) (index : Nat) (value : Value) : Checked (List Value) :=
  if index < items.length then .ok (items.set index value) else .error .index

def position (size index : Nat) : Checked (Fin size) :=
  if inside : index < size then .ok ⟨index, inside⟩ else .error .index

def slice (items : List Value) (start stop : Nat) : Checked (List Value) :=
  if start ≤ stop ∧ stop ≤ items.length then .ok ((items.take stop).drop start)
  else .error .slice

/-- Overwrites the given range; the source has to be exactly as long. -/
def copyInto (target : List Value) (start stop : Nat) (source : List Value) :
    Checked (List Value) :=
  if ¬ (start ≤ stop ∧ stop ≤ target.length) then .error .slice
  else if source.length ≠ stop - start then .error .copy
  else .ok (target.take start ++ source ++ target.drop stop)

def shiftLeft {width : Nat} (word : BitVec width) (amount : Nat) : Checked (BitVec width) :=
  if amount < width then .ok (word <<< amount) else .error .shift

def subtract {width : Nat} (first second : BitVec width) : Checked (BitVec width) :=
  if second ≤ first then .ok (first - second) else .error .underflow

/-- Reads the items at the given indices until one passes the test. -/
def anyAt (items : List Value) (test : Value → Bool) : List Nat → Checked Bool
  | [] => .ok false
  | index :: rest => do
      let item ← read items index
      if test item then return true else anyAt items test rest

@[simp] theorem checked_ok_bind {Next : Type} (value : Value) (rest : Value → Checked Next) :
    ((Except.ok value : Checked Value) >>= rest) = rest value := rfl

theorem read_ok {items : List Value} {index : Nat} {item : Value}
    (held : items[index]? = some item) : read items index = .ok item := by
  rw [read, held]

theorem write_ok {items : List Value} {index : Nat} (inside : index < items.length)
    (value : Value) : write items index value = .ok (items.set index value) :=
  if_pos inside

theorem position_ok {size index : Nat} (inside : index < size) :
    position size index = .ok ⟨index, inside⟩ :=
  dif_pos inside

theorem slice_ok {items : List Value} {start stop : Nat} (ordered : start ≤ stop)
    (inside : stop ≤ items.length) :
    slice items start stop = .ok ((items.take stop).drop start) :=
  if_pos ⟨ordered, inside⟩

theorem copy_into_ok {target source : List Value} {start stop : Nat}
    (inside : stop ≤ target.length) (long : start + source.length = stop) :
    copyInto target start stop source = .ok (target.take start ++ source ++ target.drop stop) := by
  have ordered : start ≤ stop := by omega
  have same : ¬ source.length ≠ stop - start := by omega
  rw [copyInto, if_neg (not_not.mpr ⟨ordered, inside⟩), if_neg same]

theorem shift_left_ok {width amount : Nat} (word : BitVec width) (inside : amount < width) :
    shiftLeft word amount = .ok (word <<< amount) :=
  if_pos inside

theorem subtract_ok {width : Nat} {first second : BitVec width} (ordered : second ≤ first) :
    subtract first second = .ok (first - second) :=
  if_pos ordered

/-- Writing right behind the content extends it; the buffer keeps its size. -/
theorem write_extends {buffer content : List Value} (held : content <+: buffer)
    (room : content.length < buffer.length) (value : Value) :
    ∃ written, write buffer content.length value = .ok written ∧
      written.length = buffer.length ∧ content ++ [value] <+: written := by
  refine ⟨_, write_ok room value, List.length_set, ?_⟩
  obtain ⟨rest, rfl⟩ := held
  cases rest with
  | nil => simp at room
  | cons next rest => exact ⟨rest, by simp⟩

theorem copy_extends {buffer content source : List Value} (held : content <+: buffer)
    (room : content.length + source.length ≤ buffer.length) :
    ∃ written, copyInto buffer content.length (content.length + source.length) source =
        .ok written ∧
      written.length = buffer.length ∧ content ++ source <+: written := by
  refine ⟨_, copy_into_ok room rfl, ?_, ?_⟩
  · simp only [List.length_append, List.length_take, List.length_drop]
    omega
  · rw [← List.prefix_iff_eq_take.mp held]
    exact List.prefix_append _ _

theorem any_at_range {items : List Value} (test : Value → Bool) {start count : Nat}
    (inside : start + count ≤ items.length) :
    anyAt items test (List.range' start count) =
      .ok (((items.drop start).take count).any test) := by
  induction count generalizing start with
  | zero => simp [anyAt]
  | succ count induction =>
      have bound : start < items.length := by omega
      have first := read_ok (List.getElem?_eq_getElem bound)
      have later := @induction (start + 1) (by omega)
      have split : (items.drop start).take (count + 1) =
          items[start] :: (items.drop (start + 1)).take count := by
        rw [List.drop_eq_getElem_cons bound, List.take_succ_cons]
      rw [List.range'_succ, split, List.any_cons, anyAt, first, checked_ok_bind]
      by_cases passes : test items[start] = true
      · rw [if_pos passes, passes, Bool.true_or]
        rfl
      · rw [if_neg passes, later, Bool.eq_false_iff.mpr passes, Bool.false_or]

end Bounds
