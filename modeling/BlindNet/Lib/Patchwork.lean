import Mathlib.Algebra.BigOperators.Intervals
import Mathlib.Algebra.Order.BigOperators.Group.Finset
import Mathlib.Data.List.Pairwise

/-!
# Patches written over a block

A patch is a run of values with the position of its first one. Patches are
written one after the other; a later one covers an earlier one. A range is
covered exactly once when the patches do not meet and are together as long as
the range.
-/

namespace Patchwork

set_option autoImplicit false

structure Patch (Value : Type) where
  offset : Nat
  values : List Value
  deriving DecidableEq

variable {Value : Type}

namespace Patch

def covers (patch : Patch Value) (position : Nat) : Bool :=
  decide (patch.offset ≤ position) && decide (position < patch.offset + patch.values.length)

theorem covers_iff (patch : Patch Value) (position : Nat) :
    patch.covers position = true ↔
      patch.offset ≤ position ∧ position < patch.offset + patch.values.length := by
  simp [covers]

def Inside (total : Nat) (patch : Patch Value) : Prop :=
  patch.offset + patch.values.length ≤ total

def value? (patch : Patch Value) (position : Nat) : Option Value :=
  patch.values[position - patch.offset]?

def Apart (first second : Patch Value) : Prop :=
  ∀ position, ¬ (first.covers position = true ∧ second.covers position = true)

end Patch

/-- What is read after the patches have been written over a block. -/
def patched (block : Nat → Option Value) (patches : List (Patch Value)) : Nat → Option Value :=
  patches.foldl
    (fun read patch position => if patch.covers position then patch.value? position
      else read position) block

theorem patched_append (block : Nat → Option Value) (patches : List (Patch Value))
    (patch : Patch Value) (position : Nat) :
    patched block (patches ++ [patch]) position =
      if patch.covers position then patch.value? position else patched block patches position := by
  rw [patched, List.foldl_append]
  rfl

def covering (patches : List (Patch Value)) (position : Nat) : List (Patch Value) :=
  patches.filter fun patch => patch.covers position

theorem covering_cons (patch : Patch Value) (rest : List (Patch Value)) (position : Nat) :
    covering (patch :: rest) position =
      if patch.covers position then patch :: covering rest position else covering rest position :=
  List.filter_cons

theorem covering_append (first second : List (Patch Value)) (position : Nat) :
    covering (first ++ second) position = covering first position ++ covering second position :=
  List.filter_append ..

theorem covering_singleton (patch : Patch Value) (position : Nat) :
    covering [patch] position = if patch.covers position then [patch] else [] :=
  covering_cons patch [] position

theorem patched_covered_once {block : Nat → Option Value} {patches : List (Patch Value)}
    {position : Nat} {patch : Patch Value} (once : covering patches position = [patch]) :
    patched block patches position = patch.value? position := by
  induction patches using List.reverseRecOn with
  | nil => exact absurd once (List.cons_ne_nil _ _).symm
  | append_singleton patches last induction =>
      rw [covering_append, covering_singleton] at once
      rw [patched_append]
      by_cases covers : last.covers position = true
      · rw [if_pos covers] at once
        have same : last = patch := by
          have final := congrArg List.getLast? once
          simpa using final
        rw [if_pos covers, same]
      · rw [if_neg covers, List.append_nil] at once
        rw [if_neg covers]
        exact induction once

/-- How often the positions of a range are covered, all together. -/
theorem sum_covering_length {total : Nat} {patches : List (Patch Value)}
    (inside : ∀ patch ∈ patches, patch.Inside total) :
    ∑ position ∈ Finset.range total, (covering patches position).length =
      (patches.map fun patch => patch.values.length).sum := by
  induction patches with
  | nil => simp [covering]
  | cons patch rest induction =>
      have ends : patch.offset + patch.values.length ≤ total := inside patch List.mem_cons_self
      have split : ∀ position, (covering (patch :: rest) position).length =
          (if patch.offset ≤ position ∧ position < patch.offset + patch.values.length then 1
            else 0) + (covering rest position).length := by
        intro position
        by_cases covers : patch.covers position = true
        · rw [if_pos ((patch.covers_iff position).mp covers), covering_cons, if_pos covers,
            List.length_cons, Nat.add_comm]
        · rw [if_neg (fun both => covers ((patch.covers_iff position).mpr both)), covering_cons,
            if_neg covers, Nat.zero_add]
      have own : (Finset.range total).filter
          (fun position => patch.offset ≤ position ∧
            position < patch.offset + patch.values.length) =
          Finset.Ico patch.offset (patch.offset + patch.values.length) := by
        ext position
        rw [Finset.mem_filter, Finset.mem_range, Finset.mem_Ico]
        omega
      have later := induction fun other member => inside other (List.mem_cons_of_mem _ member)
      simp only [split]
      rw [Finset.sum_add_distrib, later, ← Finset.card_filter, own, Nat.card_Ico, List.map_cons,
        List.sum_cons, Nat.add_sub_cancel_left]

theorem apart_covering_le {patches : List (Patch Value)} (apart : patches.Pairwise Patch.Apart)
    (position : Nat) : (covering patches position).length ≤ 1 := by
  induction patches with
  | nil => simp [covering]
  | cons patch rest induction =>
      rw [List.pairwise_cons] at apart
      by_cases covers : patch.covers position = true
      · have none : covering rest position = [] := by
          rw [covering, List.filter_eq_nil_iff]
          intro other member both
          exact apart.1 other member position ⟨covers, both⟩
        rw [covering_cons, if_pos covers, none]
        exact Nat.le_refl 1
      · rw [covering_cons, if_neg covers]
        exact induction apart.2

theorem covering_apart {total : Nat} {patches : List (Patch Value)}
    (inside : ∀ patch ∈ patches, patch.Inside total)
    (once : ∀ position < total, (covering patches position).length ≤ 1) :
    patches.Pairwise Patch.Apart := by
  induction patches with
  | nil => exact List.Pairwise.nil
  | cons patch rest induction =>
      rw [List.pairwise_cons]
      constructor
      · intro other member position both
        have bound : position < total := by
          have ends : patch.offset + patch.values.length ≤ total := inside patch List.mem_cons_self
          have covers := (patch.covers_iff position).mp both.1
          omega
        have listed : other ∈ covering rest position := List.mem_filter.mpr ⟨member, both.2⟩
        have single := once position bound
        rw [covering_cons, if_pos both.1, List.length_cons] at single
        have positive : 0 < (covering rest position).length := List.length_pos_of_mem listed
        omega
      · apply induction fun other member => inside other (List.mem_cons_of_mem _ member)
        intro position bound
        have single := once position bound
        by_cases covers : patch.covers position = true
        · rw [covering_cons, if_pos covers, List.length_cons] at single
          omega
        · rwa [covering_cons, if_neg covers] at single

/-- The patches do not meet and are together as long as the range. -/
structure Tiles (total : Nat) (patches : List (Patch Value)) : Prop where
  apart : patches.Pairwise Patch.Apart
  long : (patches.map fun patch => patch.values.length).sum = total

/-- Patches that end inside a range cover each of its positions exactly once if
and only if they do not meet and are together as long as the range. -/
theorem covered_once_iff_tiles {total : Nat} {patches : List (Patch Value)}
    (inside : ∀ patch ∈ patches, patch.Inside total) :
    (∀ position < total, (covering patches position).length = 1) ↔ Tiles total patches := by
  have counted := sum_covering_length inside
  constructor
  · intro once
    constructor
    · exact covering_apart inside fun position bound => (once position bound).le
    · rw [← counted, Finset.sum_congr rfl fun position member =>
        once position (Finset.mem_range.mp member), Finset.sum_const, Finset.card_range,
        Nat.nsmul_eq_mul, Nat.mul_one]
  · intro tiles position bound
    have atMost := apart_covering_le tiles.apart
    apply le_antisymm (atMost position)
    by_contra missed
    have less : ∑ position ∈ Finset.range total, (covering patches position).length <
        ∑ _position ∈ Finset.range total, 1 :=
      Finset.sum_lt_sum (fun other _ => atMost other)
        ⟨position, Finset.mem_range.mpr bound, by omega⟩
    rw [counted, tiles.long, Finset.sum_const, Finset.card_range, Nat.nsmul_eq_mul,
      Nat.mul_one] at less
    exact absurd less (Nat.lt_irrefl total)

end Patchwork
