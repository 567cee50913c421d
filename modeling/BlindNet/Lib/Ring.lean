import BlindNet.Lib.PrefixArray
import Mathlib.Data.List.Nodup
import Mathlib.Tactic.Ring
import Mathlib.Tactic.Linarith

/-!
# A ring of recent values

A fixed array with a write index and a fill count, overwritten in insertion
order. `recent` reads the ring as the list of its last insertions, newest
first; every other fact about a ring is a fact about that list. Insertion does
not check whether the value is already present, so `recent` may repeat one.
-/

namespace RecencyRing

set_option autoImplicit false

/-- Until the array has filled once, the write index is the fill count. -/
structure Ring (Value : Type) (capacity : Nat) where
  entries : List.Vector Value capacity
  next : Nat
  count : Nat
  next_lt : next < capacity
  count_le : count ≤ capacity
  filling : count < capacity → next = count

variable {Value : Type} {capacity : Nat}

namespace Ring

def empty (filler : Value) (positive : 0 < capacity) : Ring Value capacity where
  entries := List.Vector.replicate capacity filler
  next := 0
  count := 0
  next_lt := positive
  count_le := Nat.zero_le _
  filling _ := rfl

def contains [DecidableEq Value] (ring : Ring Value capacity) (value : Value) : Bool :=
  (ring.entries.toList.take ring.count).any (· == value)

def add (ring : Ring Value capacity) (value : Value) : Ring Value capacity where
  entries := ring.entries.set ⟨ring.next, ring.next_lt⟩ value
  next := (ring.next + 1) % capacity
  count := if ring.count < capacity then ring.count + 1 else ring.count
  next_lt := Nat.mod_lt _ (Nat.lt_of_le_of_lt (Nat.zero_le _) ring.next_lt)
  count_le := by
    have bounded := ring.count_le
    split <;> omega
  filling := by
    intro unfilled
    have bounded := ring.count_le
    by_cases room : ring.count < capacity
    · have cursor := ring.filling room
      rw [if_pos room] at unfilled ⊢
      rw [cursor, Nat.mod_eq_of_lt unfilled]
    · rw [if_neg room] at unfilled
      omega

def seenOrAdd [DecidableEq Value] (ring : Ring Value capacity) (value : Value) :
    Bool × Ring Value capacity :=
  if ring.contains value then (true, ring) else (false, ring.add value)

/-- The insertions still held, newest first: below the write index they run
backwards from it; once the ring is full the older ones follow from its end. -/
def recent (ring : Ring Value capacity) : List Value :=
  (ring.entries.toList.take ring.next).reverse ++
    if ring.count = capacity then (ring.entries.toList.drop ring.next).reverse else []

@[simp] theorem recent_empty (filler : Value) (positive : 0 < capacity) :
    (empty filler positive : Ring Value capacity).recent = [] := by
  have vacant : (0 : Nat) ≠ capacity := by omega
  simp [recent, empty, vacant]

theorem recent_length (ring : Ring Value capacity) : ring.recent.length = ring.count := by
  have cursor := ring.next_lt
  have bounded := ring.count_le
  by_cases full : ring.count = capacity
  · simp [recent, full]
    omega
  · have filled := ring.filling (by omega)
    simp [recent, full, filled]
    omega

theorem recent_length_le (ring : Ring Value capacity) : ring.recent.length ≤ capacity := by
  rw [recent_length]
  exact ring.count_le

/-- The filled cells and the last insertions are the same values. -/
theorem recent_perm (ring : Ring Value capacity) :
    ring.recent.Perm (ring.entries.toList.take ring.count) := by
  have bounded := ring.count_le
  by_cases full : ring.count = capacity
  · have whole : ring.entries.toList.take ring.count = ring.entries.toList := by
      apply List.take_of_length_le
      simp [full]
    rw [whole, recent, if_pos full]
    refine ((List.reverse_perm _).append (List.reverse_perm _)).trans ?_
    rw [List.take_append_drop]
  · have filled := ring.filling (by omega)
    rw [recent, if_neg full, List.append_nil, filled]
    exact List.reverse_perm _

theorem contains_iff_recent [DecidableEq Value] (ring : Ring Value capacity) (value : Value) :
    ring.contains value = true ↔ value ∈ ring.recent := by
  rw [ring.recent_perm.mem_iff]
  simp [contains]

theorem entries_add (ring : Ring Value capacity) (value : Value) :
    (ring.add value).entries.toList = ring.entries.toList.set ring.next value := by
  simp [add, List.Vector.toList_set]

theorem take_set_next (ring : Ring Value capacity) (value : Value) :
    (ring.entries.toList.set ring.next value).take (ring.next + 1) =
      ring.entries.toList.take ring.next ++ [value] := by
  have cursor := ring.next_lt
  exact PrefixArray.take_set_succ ring.entries.toList ring.next value (by simpa using cursor)

theorem recent_add_wraps {ring : Ring Value capacity} (value : Value)
    (wraps : ring.next + 1 = capacity) :
    (ring.add value).recent = (value :: ring.recent).take capacity := by
  have bounded := ring.count_le
  have home : (ring.add value).next = 0 := by simp [add, wraps]
  have full : (ring.add value).count = capacity := by
    simp only [add]
    by_cases room : ring.count < capacity
    · have filled := ring.filling room
      rw [if_pos room]
      omega
    · rw [if_neg room]
      omega
  have whole : ring.entries.toList.set ring.next value =
      ring.entries.toList.take ring.next ++ [value] := by
    rw [← take_set_next, wraps, List.take_of_length_le (by simp)]
  have newest : (ring.add value).recent =
      value :: (ring.entries.toList.take ring.next).reverse := by
    simp [recent, home, full, entries_add, whole]
  have size : (value :: (ring.entries.toList.take ring.next).reverse).length = capacity := by
    simp
    omega
  rw [newest, recent, ← List.cons_append, List.take_left' size]

theorem next_add {ring : Ring Value capacity} (value : Value) (stays : ring.next + 1 ≠ capacity) :
    (ring.add value).next = ring.next + 1 := by
  have cursor := ring.next_lt
  simp only [add]
  exact Nat.mod_eq_of_lt (by omega)

theorem front_add {ring : Ring Value capacity} (value : Value) (stays : ring.next + 1 ≠ capacity) :
    ((ring.add value).entries.toList.take (ring.add value).next).reverse =
      value :: (ring.entries.toList.take ring.next).reverse := by
  rw [entries_add, next_add value stays, take_set_next]
  simp

/-- A full ring loses exactly its oldest entry, the one just overwritten. -/
theorem recent_add_full {ring : Ring Value capacity} (value : Value)
    (stays : ring.next + 1 ≠ capacity) (full : ring.count = capacity) :
    (ring.add value).recent = (value :: ring.recent).take capacity := by
  have cursor := ring.next_lt
  have inside : ring.next < ring.entries.toList.length := by simpa using cursor
  have still : (ring.add value).count = capacity := by simp [add, full]
  have tail : (ring.add value).entries.toList.drop (ring.add value).next =
      ring.entries.toList.drop (ring.next + 1) := by
    rw [entries_add, next_add value stays, List.drop_set_of_lt (by omega)]
  have oldest : (ring.entries.toList.drop ring.next).reverse =
      (ring.entries.toList.drop (ring.next + 1)).reverse ++
        [ring.entries.toList[ring.next]] := by
    rw [List.drop_eq_getElem_cons inside]
    simp
  have size : (value :: ((ring.entries.toList.take ring.next).reverse ++
      (ring.entries.toList.drop (ring.next + 1)).reverse)).length = capacity := by
    simp
    omega
  have held : value :: ring.recent =
      (value :: ((ring.entries.toList.take ring.next).reverse ++
        (ring.entries.toList.drop (ring.next + 1)).reverse)) ++
        [ring.entries.toList[ring.next]] := by
    simp [recent, full, oldest]
  rw [held, List.take_left' size, recent, front_add value stays, tail, if_pos still]
  simp

theorem recent_add_filling {ring : Ring Value capacity} (value : Value)
    (stays : ring.next + 1 ≠ capacity) (notFull : ring.count ≠ capacity) :
    (ring.add value).recent = (value :: ring.recent).take capacity := by
  have bounded := ring.count_le
  have cursor := ring.next_lt
  have filled := ring.filling (by omega)
  have still : (ring.add value).count ≠ capacity := by
    simp only [add]
    split <;> omega
  have size : (value :: ring.recent).length ≤ capacity := by
    rw [List.length_cons, recent_length]
    omega
  rw [List.take_of_length_le size, recent, front_add value stays, if_neg still, recent,
    if_neg notFull]
  simp

theorem recent_add (ring : Ring Value capacity) (value : Value) :
    (ring.add value).recent = (value :: ring.recent).take capacity := by
  by_cases wraps : ring.next + 1 = capacity
  · exact recent_add_wraps value wraps
  · by_cases full : ring.count = capacity
    · exact recent_add_full value wraps full
    · exact recent_add_filling value wraps full

/-- A ring that is not full loses nothing. -/
theorem recent_add_room {ring : Ring Value capacity} (room : ring.recent.length < capacity)
    (value : Value) : (ring.add value).recent = value :: ring.recent := by
  rw [recent_add]
  apply List.take_of_length_le
  rw [List.length_cons]
  omega

/-- After several insertions the newest values are kept, as many as fit. -/
theorem recent_foldl_add (ring : Ring Value capacity) (values : List Value) :
    (values.foldl add ring).recent = (values.reverse ++ ring.recent).take capacity := by
  induction values generalizing ring with
  | nil => exact (List.take_of_length_le ring.recent_length_le).symm
  | cons value rest induction =>
      rw [List.foldl_cons, induction, recent_add, List.reverse_cons, List.append_assoc,
        List.take_append, List.take_append, List.take_take]
      congr 2
      omega

theorem recent_overwritten {ring : Ring Value capacity} {values : List Value}
    (whole : capacity ≤ values.length) {value : Value}
    (held : value ∈ (values.foldl add ring).recent) : value ∈ values := by
  rw [recent_foldl_add, List.take_append_of_le_length (by simpa using whole)] at held
  exact List.mem_reverse.mp (List.mem_of_mem_take held)

theorem mem_recent_add (ring : Ring Value capacity) (value : Value) :
    value ∈ (ring.add value).recent := by
  have positive : 0 < capacity := Nat.lt_of_le_of_lt (Nat.zero_le _) ring.next_lt
  rw [recent_add, List.take_cons positive]
  exact List.mem_cons_self

theorem recent_add_subset (ring : Ring Value capacity) (value other : Value)
    (member : other ∈ (ring.add value).recent) : other = value ∨ other ∈ ring.recent := by
  rw [recent_add] at member
  exact List.mem_cons.mp (List.mem_of_mem_take member)

theorem recent_add_nodup {ring : Ring Value capacity} (once : ring.recent.Nodup) {value : Value}
    (fresh : value ∉ ring.recent) : (ring.add value).recent.Nodup := by
  rw [recent_add]
  exact (List.nodup_cons.mpr ⟨fresh, once⟩).sublist (List.take_sublist _ _)

/-- The ring has just the newest of these insertions, none of which it held then. -/
structure Remembers (ring : Ring Value capacity) (misses : List Value) : Prop where
  recent : ring.recent = misses.take capacity
  once : ring.recent.Nodup

theorem Remembers.empty (filler : Value) (positive : 0 < capacity) :
    (Ring.empty filler positive : Ring Value capacity).Remembers [] := by
  constructor
  · rw [recent_empty, List.take_nil]
  · rw [recent_empty]
    exact List.nodup_nil

theorem Remembers.seen_or_add [DecidableEq Value] {ring : Ring Value capacity}
    {misses : List Value} (remembers : ring.Remembers misses) (value : Value) :
    ((ring.seenOrAdd value).1 = true ↔ value ∈ misses.take capacity) ∧
    (ring.seenOrAdd value).2.Remembers
      (if (ring.seenOrAdd value).1 then misses else value :: misses) := by
  have held := ring.contains_iff_recent value
  unfold seenOrAdd
  by_cases hit : ring.contains value = true
  · rw [if_pos hit]
    exact ⟨by rw [← remembers.recent, ← held, hit], by simpa using remembers⟩
  · have fresh : value ∉ ring.recent := fun member => hit (held.mpr member)
    rw [if_neg hit]
    constructor
    · rw [← remembers.recent, ← held]
      simp [hit]
    · constructor
      · have shorter : (value :: misses.take capacity).take capacity =
            (value :: misses).take capacity := by
          have positive : 0 < capacity := Nat.lt_of_le_of_lt (Nat.zero_le _) ring.next_lt
          rw [List.take_cons positive, List.take_cons positive, List.take_take,
            Nat.min_eq_left (Nat.sub_le _ _)]
        rw [recent_add, remembers.recent, shorter]
        rfl
      · exact recent_add_nodup remembers.once fresh

/-- The newest values stay in place while there is room for one more. -/
theorem prefix_add {ring : Ring Value capacity} {newest : List Value}
    (held : newest <+: ring.recent) (room : newest.length < capacity) (value : Value) :
    value :: newest <+: (ring.add value).recent := by
  rw [recent_add, List.prefix_take_iff]
  exact ⟨(List.prefix_cons_inj value).mpr held, room⟩

/-- The value is held, behind exactly the insertions `newer`. -/
def Behind (ring : Ring Value capacity) (value : Value) (newer : List Value) : Prop :=
  ∃ older, ring.recent = newer ++ value :: older

theorem Behind.mem {ring : Ring Value capacity} {value : Value} {newer : List Value}
    (behind : ring.Behind value newer) : value ∈ ring.recent := by
  obtain ⟨older, recent⟩ := behind
  rw [recent]
  exact List.mem_append_right _ List.mem_cons_self

theorem behind_add_self (ring : Ring Value capacity) (value : Value) :
    (ring.add value).Behind value [] := by
  have positive : 0 < capacity := Nat.lt_of_le_of_lt (Nat.zero_le _) ring.next_lt
  exact ⟨ring.recent.take (capacity - 1), by rw [recent_add, List.take_cons positive]; rfl⟩

/-- One more insertion leaves the value in place while the ring has room for
both. -/
theorem Behind.add {ring : Ring Value capacity} {value other : Value} {newer : List Value}
    (behind : ring.Behind value newer) (room : newer.length + 1 < capacity) :
    (ring.add other).Behind value (other :: newer) := by
  obtain ⟨older, recent⟩ := behind
  refine ⟨older.take (capacity - newer.length - 2), ?_⟩
  have split : other :: ring.recent = (other :: newer) ++ value :: older := by
    rw [recent, List.cons_append]
  rw [recent_add, split, List.take_append, List.take_of_length_le (by simp; omega)]
  congr 1
  obtain ⟨spare, width⟩ : ∃ spare, capacity - (other :: newer).length = spare + 1 :=
    ⟨capacity - newer.length - 2, by simp; omega⟩
  have rest : capacity - newer.length - 2 = spare := by
    rw [List.length_cons] at width
    omega
  rw [width, rest, List.take_succ_cons]

end Ring

end RecencyRing
