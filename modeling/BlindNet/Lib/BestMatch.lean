import BlindNet.Lib.SlotTable

/-!
# The best matching entry

A scan that keeps the best entry so far, and prefers a later one of the same priority,
finds the entry that is greatest by priority and then by slot. This describes its answer
completely, so that two tables with the same matching entries have the same answer.
-/

namespace SlotTable

set_option autoImplicit false

variable {Entry : Type} {capacity : Nat}

/-- The entry at a slot matches, and no other matching entry has a higher priority, or the
same priority in a later slot. -/
structure Best (matching : Entry → Bool) (priority : Entry → UInt16)
    (slots : Slots Entry capacity) (index : Fin capacity) (entry : Entry) : Prop where
  held : slots.get index = some entry
  selected : matching entry = true
  greatest : ∀ slot other, slots.get slot = some other → matching other = true →
    priority other < priority entry ∨ (priority other = priority entry ∧ slot ≤ index)

section Scan

variable (matching : Entry → Bool) (priority : Entry → UInt16)

def better (best : Option Entry) (slot : Option Entry) : Option Entry :=
  match slot with
  | none => best
  | some entry =>
      if matching entry && best.all (fun other => priority other ≤ priority entry) then
        some entry
      else
        best

/-- What the scan of a list of slots has found. -/
def Scanned (slots : List (Option Entry)) : Option Entry → Prop
  | none => ∀ (slot : Nat) other, slots[slot]? = some (some other) → matching other = false
  | some entry => ∃ index : Nat, slots[index]? = some (some entry) ∧ matching entry = true ∧
      ∀ (slot : Nat) other, slots[slot]? = some (some other) → matching other = true →
        priority other < priority entry ∨ (priority other = priority entry ∧ slot ≤ index)

theorem snoc_found_iff {slots : List (Option Entry)} {slot : Option Entry} {index : Nat}
    {entry : Entry} :
    (slots ++ [slot])[index]? = some (some entry) ↔
      slots[index]? = some (some entry) ∨ (index = slots.length ∧ slot = some entry) := by
  rcases Nat.lt_trichotomy index slots.length with before | here | after
  · rw [List.getElem?_append_left before]
    have different : index ≠ slots.length := Nat.ne_of_lt before
    simp [different]
  · subst here
    simp
  · have beyond : slots.length + 1 ≤ index := after
    have short : (slots ++ [slot]).length ≤ index := by
      rw [List.length_append]
      exact beyond
    rw [List.getElem?_eq_none short, List.getElem?_eq_none after.le]
    have different : index ≠ slots.length := Nat.ne_of_gt after
    simp [different]

theorem scanned_snoc {slots : List (Option Entry)} {best : Option Entry}
    (scanned : Scanned matching priority slots best) (slot : Option Entry) :
    Scanned matching priority (slots ++ [slot]) (better matching priority best slot) := by
  cases slot with
  | none =>
      have same : ∀ (index : Nat) entry, (slots ++ [none])[index]? = some (some entry) ↔
          slots[index]? = some (some entry) := by
        intro index entry
        simp [snoc_found_iff]
      cases best with
      | none =>
          intro index other found
          exact scanned index other ((same index other).mp found)
      | some entry =>
          obtain ⟨index, held, selected, greatest⟩ := scanned
          refine ⟨index, (same index entry).mpr held, selected, ?_⟩
          intro slot other found
          exact greatest slot other ((same slot other).mp found)
  | some entry =>
      by_cases chosen : (matching entry &&
          best.all (fun other => priority other ≤ priority entry)) = true
      · simp only [better, chosen, if_true]
        obtain ⟨selected, least⟩ := Bool.and_eq_true_iff.mp chosen
        refine ⟨slots.length, snoc_found_iff.mpr (.inr ⟨rfl, rfl⟩), selected, ?_⟩
        intro slot other found matches_
        cases snoc_found_iff.mp found with
        | inr last =>
            obtain ⟨isLast, isEntry⟩ := last
            cases isEntry
            exact .inr ⟨rfl, isLast.le⟩
        | inl earlier =>
            have inside : slot < slots.length := (List.getElem?_eq_some_iff.mp earlier).1
            cases best with
            | none =>
                have unmatched := scanned slot other earlier
                rw [unmatched] at matches_
                cases matches_
            | some old =>
                obtain ⟨_, _, _, greatest⟩ := scanned
                have atMost : priority old ≤ priority entry := of_decide_eq_true least
                cases greatest slot other earlier matches_ with
                | inl lower => exact .inl (UInt16.lt_of_lt_of_le lower atMost)
                | inr same =>
                    rw [same.1]
                    cases UInt16.lt_or_eq_of_le atMost with
                    | inl lower => exact .inl lower
                    | inr equal => exact .inr ⟨equal, inside.le⟩
      · simp only [better, if_neg chosen]
        cases best with
        | none =>
            intro slot other found
            cases snoc_found_iff.mp found with
            | inl earlier => exact scanned slot other earlier
            | inr last =>
                cases last.2
                simpa using chosen
        | some old =>
            obtain ⟨index, held, selected, greatest⟩ := scanned
            refine ⟨index, snoc_found_iff.mpr (.inl held), selected, ?_⟩
            intro slot other found matches_
            cases snoc_found_iff.mp found with
            | inl earlier => exact greatest slot other earlier matches_
            | inr last =>
                cases last.2
                have lower : ¬priority old ≤ priority entry := by simpa [matches_] using chosen
                exact .inl (UInt16.not_le.mp lower)

theorem scanned (slots : List (Option Entry)) :
    Scanned matching priority slots (slots.foldl (better matching priority) none) := by
  induction slots using List.reverseRecOn with
  | nil =>
      intro slot other found
      simp at found
  | append_singleton slots slot induction =>
      rw [List.foldl_append]
      exact scanned_snoc matching priority induction slot

end Scan

variable {matching : Entry → Bool} {priority : Entry → UInt16} {slots : Slots Entry capacity}

theorem get_eq_getElem? {index : Fin capacity} {slot : Option Entry} :
    slots.toList[index.val]? = some slot ↔ slots.get index = slot := by
  rw [List.Vector.get_eq_get_toList]
  simp

theorem best_match_scanned :
    Scanned matching priority slots.toList (bestMatch matching priority slots) :=
  scanned matching priority slots.toList

theorem best_match_none (none_ : bestMatch matching priority slots = none)
    {index : Fin capacity} {entry : Entry} (held : slots.get index = some entry) :
    matching entry = false := by
  have scanned := @best_match_scanned _ _ matching priority slots
  rw [none_] at scanned
  exact scanned index.val entry (get_eq_getElem?.mpr held)

theorem best_match_some {entry : Entry} (found : bestMatch matching priority slots = some entry) :
    ∃ index, Best matching priority slots index entry := by
  have scanned := @best_match_scanned _ _ matching priority slots
  rw [found] at scanned
  obtain ⟨index, held, selected, greatest⟩ := scanned
  have inside : index < capacity := by
    have bound := (List.getElem?_eq_some_iff.mp held).1
    rwa [List.Vector.toList_length] at bound
  refine ⟨⟨index, inside⟩, ⟨get_eq_getElem?.mp held, selected, ?_⟩⟩
  intro slot other heldOther matches_
  exact greatest slot.val other (get_eq_getElem?.mpr heldOther) matches_

theorem Best.unique {first second : Fin capacity} {entry other : Entry}
    (best : Best matching priority slots first entry)
    (also : Best matching priority slots second other) : entry = other := by
  have same : first = second := by
    cases best.greatest second other also.held also.selected with
    | inl lower =>
        cases also.greatest first entry best.held best.selected with
        | inl higher => exact absurd (UInt16.lt_trans lower higher) (UInt16.lt_irrefl _)
        | inr equal =>
            rw [equal.1] at lower
            exact absurd lower (UInt16.lt_irrefl _)
    | inr equal =>
        cases also.greatest first entry best.held best.selected with
        | inl higher =>
            rw [equal.1] at higher
            exact absurd higher (UInt16.lt_irrefl _)
        | inr equal' => exact le_antisymm equal'.2 equal.2
  have heldFirst := best.held
  rw [same, also.held] at heldFirst
  exact (Option.some.inj heldFirst).symm

/-- The scan answers with the greatest matching entry by priority and slot. -/
theorem best_match_iff {entry : Entry} :
    bestMatch matching priority slots = some entry ↔
      ∃ index, Best matching priority slots index entry := by
  constructor
  · exact best_match_some
  · rintro ⟨index, best⟩
    cases found : bestMatch matching priority slots with
    | none =>
        have unmatched := best_match_none found best.held
        rw [best.selected] at unmatched
        cases unmatched
    | some other =>
        obtain ⟨slot, also⟩ := best_match_some found
        rw [best.unique also]

theorem best_match_eq_none_iff :
    bestMatch matching priority slots = none ↔
      ∀ index entry, slots.get index = some entry → matching entry = false := by
  constructor
  · intro none_ index entry held
    exact best_match_none none_ held
  · intro unmatched
    cases found : bestMatch matching priority slots with
    | none => rfl
    | some entry =>
        obtain ⟨index, best⟩ := best_match_some found
        have missed := unmatched index entry best.held
        rw [best.selected] at missed
        cases missed

theorem Best.le {index slot : Fin capacity} {entry other : Entry}
    (best : Best matching priority slots index entry) (held : slots.get slot = some other)
    (matches_ : matching other = true) : priority other ≤ priority entry := by
  cases best.greatest slot other held matches_ with
  | inl lower => exact UInt16.le_of_lt lower
  | inr equal => exact UInt16.le_of_eq equal.1

section Agreement

variable {others : Slots Entry capacity} {matching' : Entry → Bool}

theorem best_match_congr
    (same : ∀ index entry, (slots.get index = some entry ∧ matching entry = true) ↔
      (others.get index = some entry ∧ matching' entry = true)) :
    bestMatch matching priority slots = bestMatch matching' priority others := by
  cases found : bestMatch matching' priority others with
  | none =>
      apply best_match_eq_none_iff.mpr
      intro index entry held
      apply Bool.eq_false_iff.mpr
      intro matches_
      obtain ⟨heldOther, matchesOther⟩ := (same index entry).mp ⟨held, matches_⟩
      rw [best_match_none found heldOther] at matchesOther
      cases matchesOther
  | some entry =>
      obtain ⟨index, best⟩ := best_match_some found
      obtain ⟨held, selected⟩ := (same index entry).mpr ⟨best.held, best.selected⟩
      apply best_match_iff.mpr
      refine ⟨index, ⟨held, selected, ?_⟩⟩
      intro slot other heldOther matches_
      obtain ⟨heldThere, matchesThere⟩ := (same slot other).mp ⟨heldOther, matches_⟩
      exact best.greatest slot other heldThere matchesThere

/-- The slots do not matter to the choice when different entries differ in priority. -/
theorem best_match_same_entries
    (same : ∀ entry, (∃ index, slots.get index = some entry) ↔
      ∃ index, others.get index = some entry)
    (distinct : ∀ first second entry other, slots.get first = some entry →
      slots.get second = some other → priority entry = priority other → entry = other) :
    bestMatch matching priority slots = bestMatch matching priority others := by
  cases found : bestMatch matching priority others with
  | none =>
      apply best_match_eq_none_iff.mpr
      intro index entry held
      obtain ⟨slot, heldThere⟩ := (same entry).mp ⟨index, held⟩
      exact best_match_none found heldThere
  | some entry =>
      obtain ⟨slot, best⟩ := best_match_some found
      obtain ⟨first, held⟩ := (same entry).mpr ⟨slot, best.held⟩
      cases here : bestMatch matching priority slots with
      | none =>
          have unmatched := best_match_none here held
          rw [best.selected] at unmatched
          cases unmatched
      | some other =>
          obtain ⟨second, bestHere⟩ := best_match_some here
          obtain ⟨there, heldThere⟩ := (same other).mp ⟨second, bestHere.held⟩
          have above := bestHere.le held best.selected
          have below := best.le heldThere bestHere.selected
          rw [distinct first second entry other held bestHere.held
            (UInt16.le_antisymm above below)]

end Agreement

end SlotTable
