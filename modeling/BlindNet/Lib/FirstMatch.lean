import Mathlib.Data.List.Perm.Basic

/-!
# Searches decided by the first match

A search through a list that answers by the first entry with a property. Its
answer is independent of the order of the list exactly when all matching entries
give one answer, since any of them can come first.
-/

namespace FirstMatch

set_option autoImplicit false

variable {Entry Answer : Type} (matching : Entry → Bool) (reply : Entry → Answer)
  (missing : Answer)

def answer (entries : List Entry) : Answer :=
  match entries.find? matching with
  | none => missing
  | some entry => reply entry

theorem answer_head {entry : Entry} (isMatch : matching entry = true) (rest : List Entry) :
    answer matching reply missing (entry :: rest) = reply entry := by
  rw [answer, List.find?_cons_of_pos isMatch]

theorem answer_map {Other : Type} (transform : Answer → Other) (entries : List Entry) :
    transform (answer matching reply missing entries) =
      answer matching (fun entry => transform (reply entry)) (transform missing) entries := by
  unfold answer
  cases entries.find? matching with
  | none => rfl
  | some entry => rfl

theorem answer_absent {entries : List Entry} (absent : ∀ entry ∈ entries, matching entry = false) :
    answer matching reply missing entries = missing := by
  have none : entries.find? matching = none := by
    rw [List.find?_eq_none]
    intro entry member
    simp [absent entry member]
  rw [answer, none]

theorem answer_perm_iff [DecidableEq Entry] (entries : List Entry) :
    (∀ order : List Entry, order.Perm entries →
        answer matching reply missing order = answer matching reply missing entries) ↔
      ∀ first ∈ entries, ∀ second ∈ entries, matching first = true → matching second = true →
        reply first = reply second := by
  constructor
  · intro same first isFirst second isSecond firstMatches secondMatches
    have front := same _ (List.perm_cons_erase isFirst).symm
    have back := same _ (List.perm_cons_erase isSecond).symm
    rw [answer_head _ _ _ firstMatches] at front
    rw [answer_head _ _ _ secondMatches] at back
    rw [front, back]
  · intro agree order perm
    unfold answer
    cases here : order.find? matching with
    | none =>
        have absent : entries.find? matching = none := by
          rw [List.find?_eq_none] at here ⊢
          intro entry member
          exact here entry (perm.mem_iff.mpr member)
        rw [absent]
    | some first =>
        cases there : entries.find? matching with
        | none =>
            have member := perm.mem_iff.mp (List.mem_of_find?_eq_some here)
            exact absurd (List.find?_some here) (List.find?_eq_none.mp there first member)
        | some second =>
            exact agree first (perm.mem_iff.mp (List.mem_of_find?_eq_some here)) second
              (List.mem_of_find?_eq_some there) (List.find?_some here) (List.find?_some there)

end FirstMatch
