import Mathlib.Data.List.Pairwise
import BlindNet.Lib.PrefixArray

/-!
# Tables of valid values with pairwise different keys

A table is a fixed array with a fill count. It is clean when the live values are
valid and pairwise apart and every cell behind them is blank. The operations of
the array keep a table clean, and adding the live values of a clean table one by
one to an empty table gives the table back.
-/

namespace KeyedTable

set_option autoImplicit false

open PrefixArray

variable {Value : Type} {capacity : Nat}

structure Clean (Valid : Value → Prop) (Apart : Value → Value → Prop) (blank : Value)
    (entries : List.Vector Value capacity) (count : Nat) : Prop where
  bounded : count ≤ capacity
  valid : ∀ value ∈ live entries count, Valid value
  apart : (live entries count).Pairwise Apart
  blanks : Blank blank entries count

variable {Valid : Value → Prop} {Apart : Value → Value → Prop} {blank : Value}
  {entries : List.Vector Value capacity} {count : Nat}

theorem clean_empty :
    Clean Valid Apart blank (List.Vector.replicate capacity blank) 0 where
  bounded := Nat.zero_le capacity
  valid := by simp [live]
  apart := by simp [live]
  blanks := blank_replicate blank

theorem Clean.append (clean : Clean Valid Apart blank entries count) (room : count < capacity)
    {value : Value} (valid : Valid value)
    (fresh : ∀ other ∈ live entries count, Apart other value) :
    Clean Valid Apart blank (entries.set ⟨count, room⟩ value) (count + 1) := by
  refine ⟨room, ?_, ?_, clean.blanks.append room value⟩
  · intro other member
    rw [live_append, List.mem_append, List.mem_singleton] at member
    rcases member with held | rfl
    · exact clean.valid other held
    · exact valid
  · rw [live_append, List.pairwise_append]
    refine ⟨clean.apart, List.pairwise_singleton _ _, ?_⟩
    intro other held last isLast
    rw [List.mem_singleton.mp isLast]
    exact fresh other held

theorem Clean.set_unused (clean : Clean Valid Apart blank entries count)
    (room : count < capacity) :
    Clean Valid Apart blank (entries.set ⟨count, room⟩ blank) count := by
  refine ⟨clean.bounded, ?_, ?_, clean.blanks.set_unused room⟩
  · rw [live_set_unused]
    exact clean.valid
  · rw [live_set_unused]
    exact clean.apart

/-- Rewriting a value in place is harmless when the new value is valid and is
apart from whatever the old one was apart from. -/
theorem Clean.modify_first (clean : Clean Valid Apart blank entries count)
    {matching : Value → Bool} {change : Value → Value} {next : List.Vector Value capacity}
    (modified : modifyFirst matching change entries count = some next)
    (valid : ∀ value, Valid value → matching value = true → Valid (change value))
    (apartLeft : ∀ value other, matching value = true → Apart value other →
      Apart (change value) other)
    (apartRight : ∀ value other, matching value = true → Apart other value →
      Apart other (change value)) :
    Clean Valid Apart blank next count := by
  rcases modify_first_some modified with ⟨before, value, after, first, written, rest⟩
  have valids := clean.valid
  have aparts := clean.apart
  rw [first.split] at valids aparts
  rw [List.pairwise_append, List.pairwise_cons] at aparts
  rcases aparts with ⟨front, ⟨headApart, back⟩, across⟩
  refine ⟨clean.bounded, ?_, ?_, ?_⟩
  · intro other member
    rw [written, List.mem_append, List.mem_cons] at member
    rcases member with held | rfl | held
    · exact valids other (List.mem_append_left _ held)
    · exact valid value (valids value (by simp)) first.found
    · exact valids other (by simp [held])
  · rw [written, List.pairwise_append, List.pairwise_cons]
    refine ⟨front, ⟨?_, back⟩, ?_⟩
    · intro other held
      exact apartLeft value other first.found (headApart other held)
    · intro earlier isEarlier later isLater
      rcases List.mem_cons.mp isLater with rfl | held
      · exact apartRight value earlier first.found (across earlier isEarlier value (by simp))
      · exact across earlier isEarlier later (by simp [held])
  · intro other member
    rw [rest] at member
    exact clean.blanks other member

theorem Clean.remove_first (clean : Clean Valid Apart blank entries count)
    {matching : Value → Bool} {copy : Value → Value} {next : List.Vector Value capacity}
    (removed : removeFirst matching copy blank entries count = some next)
    (unchanged : ∀ value, Valid value → copy value = value) :
    Clean Valid Apart blank next (count - 1) ∧
      ∃ before value after, FirstAt matching (live entries count) before value after ∧
        live next (count - 1) = before ++ after := by
  rcases remove_first_some clean.bounded removed with ⟨before, value, after, first, kept, rest⟩
  have valids := clean.valid
  have aparts := clean.apart
  rw [first.split] at valids aparts
  have same : after.map copy = after := by
    rw [List.map_congr_left fun other held => unchanged other (valids other (by simp [held]))]
    exact List.map_id' after
  rw [same] at kept
  have smaller : (before ++ after).Sublist (before ++ value :: after) :=
    (List.Sublist.refl before).append (List.sublist_cons_self value after)
  refine ⟨⟨Nat.le_trans (Nat.sub_le count 1) clean.bounded, ?_, ?_, ?_⟩,
    before, value, after, first, kept⟩
  · intro other member
    rw [kept] at member
    exact valids other (smaller.subset member)
  · rw [kept]
    exact aparts.sublist smaller
  · intro other member
    rw [rest, List.mem_cons] at member
    rcases member with rfl | held
    · rfl
    · exact clean.blanks other held

section Adding

variable {Table Err : Type}

theorem add_all_keeps {add : Table → Value → Except Err Table} {Kept : Table → Prop}
    (step : ∀ {table next value}, Kept table → add table value = .ok next → Kept next)
    {values : List Value} {table next : Table} (kept : Kept table)
    (added : values.foldlM add table = .ok next) : Kept next := by
  induction values generalizing table with
  | nil =>
      cases added
      exact kept
  | cons value rest induction =>
      rw [List.foldlM_cons] at added
      cases first : add table value with
      | error err =>
          rw [first] at added
          cases added
      | ok middle =>
          rw [first] at added
          exact induction (step kept first) added

/-- An addition that accepts every valid value with a new key. -/
def Accepts (Valid : Value → Prop) (Apart : Value → Value → Prop) (blank : Value)
    (make : List.Vector Value capacity → Nat → Table) (add : Table → Value → Except Err Table) :
    Prop :=
  ∀ (entries : List.Vector Value capacity) (count : Nat) (room : count < capacity) (value : Value),
    Clean Valid Apart blank entries count → Valid value →
    (∀ other ∈ live entries count, Apart other value) →
    add (make entries count) value = .ok (make (entries.set ⟨count, room⟩ value) (count + 1))

theorem Accepts.add_all {make : List.Vector Value capacity → Nat → Table}
    {add : Table → Value → Except Err Table} (accepts : Accepts Valid Apart blank make add)
    {values : List Value} (clean : Clean Valid Apart blank entries count)
    (fits : count + values.length ≤ capacity)
    (valid : ∀ value ∈ values, Valid value)
    (apart : (live entries count ++ values).Pairwise Apart) :
    ∃ final : List.Vector Value capacity,
      values.foldlM add (make entries count) = .ok (make final (count + values.length)) ∧
      Clean Valid Apart blank final (count + values.length) ∧
      live final (count + values.length) = live entries count ++ values := by
  induction values generalizing entries count with
  | nil => exact ⟨entries, rfl, clean, by simp⟩
  | cons value rest induction =>
      have room : count < capacity := by
        rw [List.length_cons] at fits
        omega
      have across := (List.pairwise_append.mp apart).2.2
      have fresh : ∀ other ∈ live entries count, Apart other value :=
        fun other held => across other held value (by simp)
      have stored := accepts entries count room value clean (valid value (by simp)) fresh
      have appended : live (entries.set ⟨count, room⟩ value) (count + 1) ++ rest =
          live entries count ++ value :: rest := by
        rw [live_append, List.append_assoc, List.singleton_append]
      have sizes : count + (value :: rest).length = count + 1 + rest.length := by
        rw [List.length_cons]
        omega
      rcases induction (clean.append room (valid value (by simp)) fresh) (by omega)
        (fun other held => valid other (by simp [held])) (by rw [appended]; exact apart) with
        ⟨final, added, finalClean, finalLive⟩
      refine ⟨final, ?_, ?_, ?_⟩
      · rw [List.foldlM_cons, stored, sizes]
        exact added
      · rw [sizes]
        exact finalClean
      · rw [sizes, finalLive, appended]

/-- A clean table is rebuilt from its live values. -/
theorem Accepts.rebuild {make : List.Vector Value capacity → Nat → Table}
    {add : Table → Value → Except Err Table} (accepts : Accepts Valid Apart blank make add)
    (clean : Clean Valid Apart blank entries count) :
    (live entries count).foldlM add (make (List.Vector.replicate capacity blank) 0) =
      .ok (make entries count) := by
  have none : live (List.Vector.replicate capacity blank) 0 = ([] : List Value) := by simp [live]
  have size := live_length entries clean.bounded
  rcases accepts.add_all clean_empty
    (by rw [size, Nat.zero_add]; exact clean.bounded) clean.valid
    (by rw [none, List.nil_append]; exact clean.apart) with ⟨final, added, finalClean, finalLive⟩
  rw [size, Nat.zero_add] at added finalClean finalLive
  have same : final = entries :=
    finalClean.blanks.determined clean.blanks (by rw [finalLive, none, List.nil_append])
  rw [added, same]

end Adding

end KeyedTable
