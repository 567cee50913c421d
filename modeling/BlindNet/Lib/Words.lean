import Mathlib.Data.List.TakeWhile

/-!
# Words between separators

The words of a text are its maximal pieces without a separator. Separators at either end
or in a row stand for nothing.
-/

namespace Words

set_option autoImplicit false

variable {Letter : Type} (separates : Letter → Bool)

def words (text : List Letter) : List (List Letter) :=
  (text.splitOnP separates).filter (· ≠ [])

@[simp] theorem words_nil : words separates [] = [] := by
  simp [words]

variable {separates}

theorem words_separator {letter : Letter} (separator : separates letter = true)
    (rest : List Letter) : words separates (letter :: rest) = words separates rest := by
  have split := @List.splitOnP_append_cons_of_forall_mem _ separates [] (by simp) letter separator
    rest
  rw [List.nil_append] at split
  rw [words, split, List.filter_cons_of_neg (by simp), words]

theorem words_drop_separators (text : List Letter) :
    words separates (text.dropWhile separates) = words separates text := by
  induction text with
  | nil => rfl
  | cons letter rest induction =>
      by_cases separator : separates letter = true
      · rw [List.dropWhile_cons_of_pos separator, induction, words_separator separator]
      · rw [List.dropWhile_cons_of_neg separator]

theorem words_word {word rest : List Letter} (nonempty : word ≠ [])
    (inside : ∀ letter ∈ word, separates letter = false)
    (ended : ∀ letter ∈ rest.head?, separates letter = true) :
    words separates (word ++ rest) = word :: words separates rest := by
  cases rest with
  | nil =>
      have single : word.splitOnP separates = [word] :=
        List.splitOnP_eq_singleton inside
      rw [List.append_nil, words, single, List.filter_cons_of_pos (by simpa using nonempty)]
      simp
  | cons letter rest =>
      have separator := ended letter rfl
      have split := List.splitOnP_append_cons_of_forall_mem inside letter separator rest
      rw [words_separator separator, words, split,
        List.filter_cons_of_pos (by simpa using nonempty), words]

/-- A text of separators, or its first word and what follows. -/
theorem words_cases (text : List Letter) :
    (text.dropWhile separates = [] ∧ words separates text = []) ∨
      ∃ word rest, text.dropWhile separates = word ++ rest ∧ word ≠ [] ∧
        (∀ letter ∈ word, separates letter = false) ∧
        (∀ letter ∈ rest.head?, separates letter = true) ∧
        words separates text = word :: words separates rest := by
  by_cases blank : text.dropWhile separates = []
  · left
    rw [← words_drop_separators, blank]
    exact ⟨rfl, words_nil separates⟩
  · right
    generalize body : text.dropWhile separates = start at blank
    have split : start = start.takeWhile (fun letter => !separates letter) ++
        start.dropWhile (fun letter => !separates letter) :=
      List.takeWhile_append_dropWhile.symm
    have nonempty : start.takeWhile (fun letter => !separates letter) ≠ [] := by
      cases start with
      | nil => exact absurd rfl blank
      | cons first others =>
          have stopped := List.head?_dropWhile_not separates text
          rw [body] at stopped
          have begins : separates first = false := by simpa using stopped
          rw [List.takeWhile_cons_of_pos (by rw [begins]; rfl)]
          exact List.cons_ne_nil _ _
    have inside : ∀ letter ∈ start.takeWhile (fun letter => !separates letter),
        separates letter = false := by
      intro letter member
      have kept := List.mem_takeWhile_imp member
      simpa using kept
    have ended : ∀ letter ∈ (start.dropWhile (fun letter => !separates letter)).head?,
        separates letter = true := by
      intro letter first
      have stopped := List.head?_dropWhile_not (fun letter => !separates letter) start
      rw [Option.mem_def.mp first] at stopped
      simpa using stopped
    refine ⟨_, _, split, nonempty, inside, ended, ?_⟩
    rw [← words_drop_separators, body]
    conv => lhs; rw [split]
    exact words_word nonempty inside ended

theorem words_cover {text : List Letter} {letter : Letter} (member : letter ∈ text) :
    separates letter = true ∨ ∃ word ∈ words separates text, letter ∈ word := by
  induction isSize : text.length using Nat.strongRecOn generalizing text with
  | ind size induction =>
      rw [← List.takeWhile_append_dropWhile (p := separates) (l := text)] at member
      rcases List.mem_append.mp member with early | late
      · exact Or.inl (List.mem_takeWhile_imp early)
      · rcases @words_cases _ separates text with
          ⟨blank, _⟩ | ⟨word, rest, split, nonempty, _, _, first⟩
        · rw [blank] at late
          cases late
        · rw [split] at late
          rcases List.mem_append.mp late with here | later
          · exact Or.inr ⟨word, by rw [first]; exact List.mem_cons_self, here⟩
          · have shorter : rest.length < size := by
              have dropped := (List.dropWhile_sublist separates (l := text)).length_le
              have positive := List.length_pos_iff.mpr nonempty
              rw [split, List.length_append] at dropped
              omega
            rcases induction rest.length shorter later rfl with separator | ⟨other, known, holds⟩
            · exact Or.inl separator
            · exact Or.inr ⟨other, by rw [first]; exact List.mem_cons_of_mem _ known, holds⟩

end Words
