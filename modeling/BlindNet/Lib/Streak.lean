import Mathlib.Data.List.TakeWhile

/-!
# Streaks in a sequence of samples

The streak of a sequence is the number of samples at its end that pass a test. A detector
that counts up over passing samples and starts again at the others follows the streak of
what it has seen; the place where the streak reaches a number is a place in a maximal run.
-/

namespace Streak

set_option autoImplicit false

variable {Sample : Type} (passes : Sample → Bool)

def streak (samples : List Sample) : Nat :=
  (samples.reverse.takeWhile passes).length

@[simp] theorem streak_nil : streak passes [] = 0 := rfl

theorem streak_append (samples : List Sample) (sample : Sample) :
    streak passes (samples ++ [sample]) =
      if passes sample then streak passes samples + 1 else 0 := by
  simp only [streak, List.reverse_append, List.reverse_singleton, List.singleton_append,
    List.takeWhile_cons]
  split <;> simp

/-- Samples that pass, between two that do not or the ends of the sequence. -/
structure MaximalRun (before run after : List Sample) : Prop where
  nonempty : run ≠ []
  inside : ∀ sample ∈ run, passes sample = true
  left : ∀ sample, before.getLast? = some sample → passes sample = false
  right : ∀ sample, after.head? = some sample → passes sample = false

variable {passes}

theorem streak_of_parts {before run : List Sample}
    (inside : ∀ sample ∈ run, passes sample = true)
    (left : ∀ sample, before.getLast? = some sample → passes sample = false) :
    streak passes (before ++ run) = run.length := by
  have reversed : ∀ sample ∈ run.reverse, passes sample = true := by
    intro sample member
    exact inside sample (List.mem_reverse.mp member)
  have stops : before.reverse.takeWhile passes = [] := by
    cases last : before.reverse with
    | nil => rfl
    | cons sample rest =>
        have isLast : before.getLast? = some sample := by
          rw [← List.head?_reverse, last, List.head?_cons]
        rw [List.takeWhile_cons_of_neg]
        rw [left sample isLast]
        decide
  rw [streak, List.reverse_append, List.takeWhile_append_of_pos reversed, stops, List.append_nil,
    List.length_reverse]

/-- The streak is the length of a run that ends the sequence and cannot start earlier. -/
theorem streak_split (samples : List Sample) :
    ∃ before run, samples = before ++ run ∧ run.length = streak passes samples ∧
      (∀ sample ∈ run, passes sample = true) ∧
      ∀ sample, before.getLast? = some sample → passes sample = false := by
  refine ⟨(samples.reverse.dropWhile passes).reverse, (samples.reverse.takeWhile passes).reverse,
    ?_, ?_, ?_, ?_⟩
  · rw [← List.reverse_append, List.takeWhile_append_dropWhile, List.reverse_reverse]
  · rw [List.length_reverse, streak]
  · intro sample member
    exact List.mem_takeWhile_imp (List.mem_reverse.mp member)
  · intro sample isLast
    rw [List.getLast?_reverse] at isLast
    have first := List.head?_dropWhile_not passes samples.reverse
    rw [isLast] at first
    simpa using first

/-- The streak up to a sample is `count` exactly when the sample is number `count` of a
maximal run. -/
theorem streak_take_iff {samples : List Sample} {index count : Nat}
    (inside : index < samples.length) (positive : 0 < count) :
    streak passes (samples.take (index + 1)) = count ↔
      ∃ before run after, samples = before ++ run ++ after ∧
        MaximalRun passes before run after ∧ count ≤ run.length ∧
        index + 1 = before.length + count := by
  constructor
  · intro reached
    obtain ⟨before, run, split, size, passing, left⟩ :=
      @streak_split _ passes (samples.take (index + 1))
    -- The run may go on behind the sample, up to the first one that does not pass.
    have behind : samples.drop (index + 1) =
        (samples.drop (index + 1)).takeWhile passes ++
          (samples.drop (index + 1)).dropWhile passes :=
      List.takeWhile_append_dropWhile.symm
    have place : index + 1 = before.length + run.length := by
      rw [← List.length_append, ← split, List.length_take]
      omega
    refine ⟨before, run ++ (samples.drop (index + 1)).takeWhile passes,
      (samples.drop (index + 1)).dropWhile passes, ?_, ?_, ?_, by omega⟩
    · rw [List.append_assoc, List.append_assoc, ← behind, ← List.append_assoc, ← split,
        List.take_append_drop]
    · constructor
      · apply List.append_ne_nil_of_left_ne_nil
        exact List.ne_nil_of_length_pos (by omega)
      · intro sample member
        rcases List.mem_append.mp member with early | late
        · exact passing sample early
        · exact List.mem_takeWhile_imp late
      · exact left
      · intro sample isFirst
        have first := List.head?_dropWhile_not passes (samples.drop (index + 1))
        rw [isFirst] at first
        simpa using first
    · rw [List.length_append]
      omega
  · rintro ⟨before, run, after, rfl, maximal, long, place⟩
    have seen : (before ++ run ++ after).take (index + 1) = before ++ run.take count := by
      rw [place, List.append_assoc, List.take_length_add_append,
        List.take_append_of_le_length long]
    rw [seen, streak_of_parts _ maximal.left]
    · rw [List.length_take, Nat.min_eq_left long]
    · intro sample member
      exact maximal.inside sample (List.mem_of_mem_take member)

end Streak
