import Mathlib.Data.Vector.Basic

/-!
# A fixed array with a fill count

The live part is the first `count` cells. Writing the cell at `count` and
advancing the count appends; writing it without advancing is not visible. The
first live cell that matches can be rewritten in place, or taken out by moving
the later ones down. When the cells behind the live part are blank, the array is
determined by its live part.
-/

namespace PrefixArray

set_option autoImplicit false

variable {Value : Type} {capacity : Nat}

theorem take_set_succ (values : List Value) (index : Nat) (value : Value)
    (inside : index < values.length) :
    (values.set index value).take (index + 1) = values.take index ++ [value] := by
  rw [List.take_succ_eq_append_getElem (by simpa using inside)]
  simp [List.take_set_of_le]

def live (entries : List.Vector Value capacity) (count : Nat) : List Value :=
  entries.toList.take count

theorem live_append (entries : List.Vector Value capacity) (count : Nat)
    (room : count < capacity) (value : Value) :
    live (entries.set ⟨count, room⟩ value) (count + 1) = live entries count ++ [value] := by
  have inside : count < entries.toList.length := by simpa using room
  rw [live, List.Vector.toList_set]
  exact take_set_succ entries.toList count value inside

theorem live_set_unused (entries : List.Vector Value capacity) (count : Nat)
    (room : count < capacity) (value : Value) :
    live (entries.set ⟨count, room⟩ value) count = live entries count := by
  rw [live, live, List.Vector.toList_set, List.take_set_of_le (Nat.le_refl count)]

theorem live_length (entries : List.Vector Value capacity) {count : Nat}
    (bounded : count ≤ capacity) : (live entries count).length = count := by
  rw [live, List.length_take, List.Vector.toList_length]
  omega

theorem exists_live (entries : List.Vector Value capacity) {values : List Value}
    (fits : values.length ≤ capacity) :
    ∃ filled : List.Vector Value capacity, live filled values.length = values := by
  refine ⟨⟨values ++ entries.toList.drop values.length, ?_⟩, List.take_left' rfl⟩
  rw [List.length_append, List.length_drop, List.Vector.toList_length]
  omega

/-- The live cells around the first one that matches. -/
structure FirstAt (matching : Value → Bool) (values before : List Value) (value : Value)
    (after : List Value) : Prop where
  split : values = before ++ value :: after
  found : matching value = true
  earlier : ∀ other ∈ before, matching other = false

theorem exists_first_at {matching : Value → Bool} {values : List Value} {index : Nat}
    (found : values.findIdx? matching = some index) :
    ∃ before value after, FirstAt matching values before value after ∧ before.length = index := by
  rcases List.findIdx?_eq_some_iff_getElem.mp found with ⟨inside, matches_, earlier⟩
  refine ⟨values.take index, values[index], values.drop (index + 1), ⟨?_, matches_, ?_⟩, ?_⟩
  · rw [List.getElem_cons_drop, List.take_append_drop]
  · intro other member
    rcases List.mem_take_iff_getElem.mp member with ⟨position, bound, rfl⟩
    have below : position < index := by omega
    simpa using earlier position below
  · rw [List.length_take]
    omega

theorem FirstAt.find {matching : Value → Bool} {values before after : List Value} {value : Value}
    (first : FirstAt matching values before value after) : values.find? matching = some value := by
  have none : before.find? matching = none := by
    rw [List.find?_eq_none]
    intro other member
    rw [first.earlier other member]
    decide
  rw [first.split, List.find?_append, none, Option.none_or,
    List.find?_cons_of_pos first.found]

theorem FirstAt.find_written {matching : Value → Bool} {values before after : List Value}
    {value new : Value} (first : FirstAt matching values before value after)
    (found : matching new = true) :
    (before ++ new :: after).find? matching = some new :=
  FirstAt.find ⟨rfl, found, first.earlier⟩

theorem FirstAt.find_other {matching other : Value → Bool} {values before after : List Value}
    {value new : Value} (first : FirstAt matching values before value after)
    (old : other value = false) (written : other new = false) :
    (before ++ new :: after).find? other = values.find? other := by
  rw [first.split, List.find?_append, List.find?_append, List.find?_cons, List.find?_cons, old,
    written]

theorem modify_middle (before : List Value) (value : Value) (after : List Value)
    (change : Value → Value) :
    (before ++ value :: after).modify before.length change = before ++ change value :: after := by
  rw [List.modify_eq_set_getElem?]
  simp

/-- Rewrites the first live cell that matches. -/
def modifyFirst (matching : Value → Bool) (change : Value → Value)
    (entries : List.Vector Value capacity) (count : Nat) : Option (List.Vector Value capacity) :=
  match (live entries count).findIdx? matching with
  | none => none
  | some index =>
      some ⟨entries.toList.modify index change, by rw [List.length_modify]; exact entries.2⟩

/-- Moves the next `steps` cells down by one, from `index` on, each through `copy`. -/
def shiftDown (copy : Value → Value) : Nat → Nat → List Value → List Value
  | 0, _, values => values
  | steps + 1, index, values =>
      match values[index + 1]? with
      | none => values
      | some next => shiftDown copy steps (index + 1) (values.set index (copy next))

@[simp] theorem shift_down_length (copy : Value → Value) (steps index : Nat) (values : List Value) :
    (shiftDown copy steps index values).length = values.length := by
  induction steps generalizing index values with
  | zero => rfl
  | succ steps induction =>
      rw [shiftDown]
      cases values[index + 1]? with
      | none => rfl
      | some next => rw [induction, List.length_set]

/-- The moved cells end where one more cell was; that cell keeps its value. -/
theorem shift_down_append (copy : Value → Value) (before moved rest : List Value) (value : Value) :
    shiftDown copy moved.length before.length (before ++ value :: (moved ++ rest)) =
      before ++ (moved.map copy ++ (value :: moved).getLast (by simp) :: rest) := by
  induction moved generalizing before value with
  | nil => rfl
  | cons next moved induction =>
      have nextCell : (before ++ value :: (next :: moved ++ rest))[before.length + 1]? =
          some next := by
        rw [List.getElem?_append_right (by omega)]
        simp
      have written : (before ++ value :: (next :: moved ++ rest)).set before.length (copy next) =
          (before ++ [copy next]) ++ next :: (moved ++ rest) := by
        rw [List.set_append_right _ _ (Nat.le_refl _)]
        simp
      have position : before.length + 1 = (before ++ [copy next]).length := by simp
      rw [List.length_cons, shiftDown, nextCell]
      simp only [written]
      rw [position, induction]
      simp

/-- Takes the first live cell that matches out: the later live cells move down
and the cell that was live last is left blank. -/
def removeFirst (matching : Value → Bool) (copy : Value → Value) (blank : Value)
    (entries : List.Vector Value capacity) (count : Nat) : Option (List.Vector Value capacity) :=
  match (live entries count).findIdx? matching with
  | none => none
  | some index =>
      some ⟨(shiftDown copy (count - 1 - index) index entries.toList).set (count - 1) blank, by
        rw [List.length_set, shift_down_length]
        exact entries.2⟩

theorem modify_first_none_iff {matching : Value → Bool} {change : Value → Value}
    {entries : List.Vector Value capacity} {count : Nat} :
    modifyFirst matching change entries count = none ↔
      ∀ value ∈ live entries count, matching value = false := by
  unfold modifyFirst
  rw [← List.findIdx?_eq_none_iff]
  cases (live entries count).findIdx? matching <;> simp

theorem remove_first_none_iff {matching : Value → Bool} {copy : Value → Value} {blank : Value}
    {entries : List.Vector Value capacity} {count : Nat} :
    removeFirst matching copy blank entries count = none ↔
      ∀ value ∈ live entries count, matching value = false := by
  unfold removeFirst
  rw [← List.findIdx?_eq_none_iff]
  cases (live entries count).findIdx? matching <;> simp

theorem modify_first_some {matching : Value → Bool} {change : Value → Value}
    {entries next : List.Vector Value capacity} {count : Nat}
    (modified : modifyFirst matching change entries count = some next) :
    ∃ before value after, FirstAt matching (live entries count) before value after ∧
      live next count = before ++ change value :: after ∧
      next.toList.drop count = entries.toList.drop count := by
  unfold modifyFirst at modified
  cases found : (live entries count).findIdx? matching with
  | none => simp [found] at modified
  | some index =>
      simp only [found] at modified
      rcases exists_first_at found with ⟨before, value, after, first, position⟩
      have inside : index < count := by
        have bound := congrArg List.length first.split
        rw [live, List.length_take, List.length_append, List.length_cons] at bound
        omega
      have written : next.toList = entries.toList.modify index change := by
        rw [← Option.some.inj modified]
        rfl
      refine ⟨before, value, after, first, ?_, ?_⟩
      · rw [live, written, List.take_modify]
        change (live entries count).modify index change = _
        rw [first.split, ← position]
        exact modify_middle before value after change
      · rw [written, List.drop_modify_of_lt _ _ _ _ inside]

theorem modify_first_unchanged_iff {matching : Value → Bool} {change : Value → Value}
    {entries next : List.Vector Value capacity} {count : Nat}
    (modified : modifyFirst matching change entries count = some next) :
    next = entries ↔
      ∀ value, (live entries count).find? matching = some value → change value = value := by
  rcases modify_first_some modified with ⟨before, value, after, first, written, rest⟩
  rw [first.find]
  constructor
  · intro same other isOther
    cases isOther
    rw [same, first.split] at written
    have tail := List.append_cancel_left written
    rw [List.cons.injEq] at tail
    exact tail.1.symm
  · intro unchanged
    rw [unchanged value rfl, ← first.split] at written
    apply List.Vector.eq
    rw [← List.take_append_drop count next.toList, ← List.take_append_drop count entries.toList,
      rest]
    exact congrArg (· ++ entries.toList.drop count) written

/-- The cells that stay are the others, and the last live cell has become blank. -/
theorem remove_first_some {matching : Value → Bool} {copy : Value → Value} {blank : Value}
    {entries next : List.Vector Value capacity} {count : Nat} (bounded : count ≤ capacity)
    (removed : removeFirst matching copy blank entries count = some next) :
    ∃ before value after, FirstAt matching (live entries count) before value after ∧
      live next (count - 1) = before ++ after.map copy ∧
      next.toList.drop (count - 1) = blank :: entries.toList.drop count := by
  unfold removeFirst at removed
  cases found : (live entries count).findIdx? matching with
  | none => simp [found] at removed
  | some index =>
      simp only [found] at removed
      rcases exists_first_at found with ⟨before, value, after, first, position⟩
      have whole : entries.toList = before ++ value :: (after ++ entries.toList.drop count) := by
        have parts := List.take_append_drop count entries.toList
        change live entries count ++ _ = _ at parts
        rw [first.split, List.append_assoc, List.cons_append] at parts
        exact parts.symm
      have sizes : before.length + (after.length + 1) = count := by
        rw [← live_length entries bounded, first.split, List.length_append, List.length_cons]
      have steps : count - 1 - index = after.length := by omega
      have written : next.toList =
          (before ++ after.map copy) ++ blank :: entries.toList.drop count := by
        have last : count - 1 = (before ++ after.map copy).length := by
          rw [List.length_append, List.length_map]
          omega
        rw [← Option.some.inj removed]
        change (shiftDown copy (count - 1 - index) index entries.toList).set (count - 1) blank = _
        rw [steps, ← position, whole, shift_down_append, ← List.append_assoc, ← whole, last,
          List.set_append_right _ _ (Nat.le_refl _), Nat.sub_self, List.set_cons_zero]
      have kept : (before ++ after.map copy).length = count - 1 := by
        rw [List.length_append, List.length_map]
        omega
      refine ⟨before, value, after, first, ?_, ?_⟩
      · rw [live, written]
        exact List.take_left' kept
      · rw [written]
        exact List.drop_left' kept

def Blank (blank : Value) (entries : List.Vector Value capacity) (count : Nat) : Prop :=
  ∀ value ∈ entries.toList.drop count, value = blank

/-- An array that is blank behind its live part is determined by that part. -/
theorem Blank.determined {blank : Value} {first second : List.Vector Value capacity} {count : Nat}
    (firstBlank : Blank blank first count) (secondBlank : Blank blank second count)
    (same : live first count = live second count) : first = second := by
  have rest : first.toList.drop count = second.toList.drop count := by
    rw [List.eq_replicate_of_mem firstBlank, List.eq_replicate_of_mem secondBlank]
    simp
  apply List.Vector.eq
  rw [← List.take_append_drop count first.toList, ← List.take_append_drop count second.toList, rest]
  exact congrArg (· ++ second.toList.drop count) same

theorem Blank.get {blank : Value} {entries : List.Vector Value capacity} {count : Nat}
    (blanks : Blank blank entries count) {index : Fin capacity} (behind : count ≤ index.val) :
    entries.get index = blank := by
  apply blanks
  rw [List.mem_drop_iff_getElem]
  refine ⟨index.val - count, ?_, ?_⟩
  · rw [List.Vector.toList_length]
    omega
  · rw [List.Vector.get_eq_get_toList, List.get_eq_getElem]
    simp only [Fin.val_cast]
    congr 1
    omega

theorem live_map {Other : Type} (change : Value → Other) (entries : List.Vector Value capacity)
    (count : Nat) : live (entries.map change) count = (live entries count).map change := by
  rw [live, live, List.Vector.toList_map, List.map_take]

theorem blank_replicate (blank : Value) :
    Blank blank (List.Vector.replicate capacity blank) 0 := by
  intro value member
  exact List.eq_of_mem_replicate member

theorem Blank.append {blank : Value} {entries : List.Vector Value capacity} {count : Nat}
    (blanks : Blank blank entries count) (room : count < capacity) (value : Value) :
    Blank blank (entries.set ⟨count, room⟩ value) (count + 1) := by
  intro other member
  rw [List.Vector.toList_set, List.drop_set_of_lt (Nat.lt_succ_self count)] at member
  have later : entries.toList.drop (count + 1) = (entries.toList.drop count).drop 1 :=
    List.drop_drop.symm
  rw [Nat.succ_eq_add_one, later] at member
  exact blanks other (List.mem_of_mem_drop member)

theorem Blank.set_unused {blank : Value} {entries : List.Vector Value capacity} {count : Nat}
    (blanks : Blank blank entries count) (room : count < capacity) :
    Blank blank (entries.set ⟨count, room⟩ blank) count := by
  intro other member
  rw [List.Vector.toList_set, List.drop_set, if_neg (by simp)] at member
  rcases List.mem_or_eq_of_mem_set member with held | written
  · exact blanks other held
  · exact written

end PrefixArray
