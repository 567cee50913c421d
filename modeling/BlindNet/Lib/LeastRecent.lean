import BlindNet.Lib.SlotAccount
import BlindNet.Lib.SlotLookup

/-!
# Entries used least recently

A full table makes room by the ages of its entries, which are uptimes cut to 32 bits. The
runs here carry the uptimes themselves, so that what the table evicts can be compared with
what was used least recently.
-/

namespace SlotTable

set_option autoImplicit false

variable {Entry Key Call : Type} {capacity : Nat} {age : Entry → UInt32}

/-! ## The search for the least age -/

section Search

variable {slots : Slots Entry capacity}

def younger (age : Entry → UInt32) (slots : Slots Entry capacity)
    (chosen : Option (Fin capacity) × UInt32) (index : Fin capacity) :
    Option (Fin capacity) × UInt32 :=
  match slots.get index with
  | none => chosen
  | some entry => if age entry < chosen.2 then (some index, age entry) else chosen

/-- What the search has found in the slots it has visited. -/
structure Oldest (age : Entry → UInt32) (slots : Slots Entry capacity)
    (visited : List (Fin capacity)) (chosen : Option (Fin capacity) × UInt32) : Prop where
  least : ∀ index ∈ visited, ∀ entry, slots.get index = some entry → chosen.2 ≤ age entry
  none_ : chosen.1 = none → chosen.2 = 0xFFFFFFFF
  some_ : ∀ index, chosen.1 = some index →
    ∃ entry, slots.get index = some entry ∧ age entry = chosen.2

theorem Oldest.step {visited : List (Fin capacity)} {chosen : Option (Fin capacity) × UInt32}
    (oldest : Oldest age slots visited chosen) (index : Fin capacity) :
    Oldest age slots (visited ++ [index]) (younger age slots chosen index) := by
  unfold younger
  cases held : slots.get index with
  | none =>
      refine ⟨?_, oldest.none_, oldest.some_⟩
      intro slot member entry heldSlot
      cases List.mem_append.mp member with
      | inl earlier => exact oldest.least slot earlier entry heldSlot
      | inr last =>
          rw [List.mem_singleton.mp last, held] at heldSlot
          cases heldSlot
  | some entry =>
      by_cases less : age entry < chosen.2
      · simp only [if_pos less]
        refine ⟨?_, (by intro impossible; cases impossible), ?_⟩
        · intro slot member other heldSlot
          cases List.mem_append.mp member with
          | inl earlier =>
              exact UInt32.le_trans (UInt32.le_of_lt less)
                (oldest.least slot earlier other heldSlot)
          | inr last =>
              rw [List.mem_singleton.mp last, held] at heldSlot
              cases heldSlot
              exact UInt32.le_refl _
        · intro slot isSlot
          cases isSlot
          exact ⟨entry, held, rfl⟩
      · simp only [if_neg less]
        refine ⟨?_, oldest.none_, oldest.some_⟩
        intro slot member other heldSlot
        cases List.mem_append.mp member with
        | inl earlier => exact oldest.least slot earlier other heldSlot
        | inr last =>
            rw [List.mem_singleton.mp last, held] at heldSlot
            cases heldSlot
            exact UInt32.not_lt.mp less

theorem oldest_found (visited : List (Fin capacity)) :
    Oldest age slots visited (visited.foldl (younger age slots) (none, 0xFFFFFFFF)) := by
  induction visited using List.reverseRecOn with
  | nil =>
      refine ⟨fun index member => absurd member List.not_mem_nil, fun _ => rfl, ?_⟩
      intro index impossible
      cases impossible
  | append_singleton visited index induction =>
      rw [List.foldl_append]
      exact induction.step index

theorem find_lru_oldest :
    ∃ bound, Oldest age slots (List.finRange capacity) (findLru age slots, bound) :=
  ⟨_, oldest_found (List.finRange capacity)⟩

/-- The slot that is found holds an entry of the least age. -/
theorem find_lru_some {index : Fin capacity} (found : findLru age slots = some index) :
    ∃ entry, slots.get index = some entry ∧
      ∀ slot other, slots.get slot = some other → age entry ≤ age other := by
  obtain ⟨bound, oldest⟩ := @find_lru_oldest _ _ age slots
  obtain ⟨entry, held, isBound⟩ := oldest.some_ index found
  refine ⟨entry, held, ?_⟩
  intro slot other heldSlot
  rw [isBound]
  exact oldest.least slot (List.mem_finRange slot) other heldSlot

/-- No slot is found when all entries have the greatest age. -/
theorem find_lru_none (missed : findLru age slots = none) {slot : Fin capacity} {entry : Entry}
    (held : slots.get slot = some entry) : age entry = 0xFFFFFFFF := by
  obtain ⟨bound, oldest⟩ := @find_lru_oldest _ _ age slots
  have least := oldest.least slot (List.mem_finRange slot) entry held
  rw [oldest.none_ missed, UInt32.le_iff_toNat_le] at least
  have bounded := (age entry).toNat_lt
  have greatest : ((0xFFFFFFFF : UInt32)).toNat = 2 ^ 32 - 1 := rfl
  apply UInt32.toNat_inj.mp
  omega

theorem claim_evicts_lru {evict : Bool} {index : Fin capacity}
    (claimed : claim evict age slots = some (index, true)) : findLru age slots = some index := by
  unfold claim at claimed
  split at claimed
  next => cases claimed
  next full =>
    split_ifs at claimed
    obtain ⟨found, isFound, same⟩ := Option.map_eq_some_iff.mp claimed
    cases same
    exact isFound

end Search

/-! ## Uses on the time line -/

theorem fold_history {State : Type} {step : State → Call → State}
    (Known : State → List Call → Prop) (Allowed : Call → Prop)
    (carried : ∀ {state history call}, Allowed call → Known state history →
      Known (step state call) (history ++ [call]))
    {state : State} (start : Known state []) {calls : List Call}
    (allowed : ∀ call ∈ calls, Allowed call) : Known (calls.foldl step state) calls := by
  induction calls using List.reverseRecOn with
  | nil => exact start
  | append_singleton calls call induction =>
      rw [List.foldl_append]
      apply carried
      · exact allowed call (List.mem_append_right _ List.mem_cons_self)
      · exact induction fun other member => allowed other (List.mem_append_left _ member)

section Uses

variable [DecidableEq Key] {keyOf : Entry → Key} {touches : Call → Option Key}
  {table next : Keyed Entry keyOf capacity} {calls : List (Nat × Call)}

def lastTouch (touches : Call → Option Key) (calls : List (Nat × Call)) (key : Key) : Option Nat :=
  calls.foldl (fun last timed => if touches timed.2 = some key then some timed.1 else last) none

theorem last_touch_snoc (calls : List (Nat × Call)) (timed : Nat × Call) (key : Key) :
    lastTouch touches (calls ++ [timed]) key =
      if touches timed.2 = some key then some timed.1 else lastTouch touches calls key := by
  unfold lastTouch
  rw [List.foldl_append]
  rfl

/-- The age of every entry is the uptime of its last use, cut to 32 bits. -/
def Aged (age : Entry → UInt32) (touches : Call → Option Key)
    (table : Keyed Entry keyOf capacity) (calls : List (Nat × Call)) : Prop :=
  ∀ key entry, table.lookup key = some entry →
    ∃ time, lastTouch touches calls key = some time ∧ age entry = UInt32.ofNat time

theorem aged_empty : Aged age touches (Keyed.empty : Keyed Entry keyOf capacity) calls := by
  intro key entry held
  rw [Keyed.lookup_empty] at held
  cases held

/-- A call gives the entry it touches its own uptime, and leaves every other age alone. -/
theorem Aged.step (aged : Aged age touches table calls) {timed : Nat × Call}
    (own : ∀ key entry, touches timed.2 = some key → next.lookup key = some entry →
      age entry = UInt32.ofNat timed.1)
    (others : ∀ key entry, touches timed.2 ≠ some key → next.lookup key = some entry →
      ∃ old, table.lookup key = some old ∧ age old = age entry) :
    Aged age touches next (calls ++ [timed]) := by
  intro key entry held
  rw [last_touch_snoc]
  by_cases touched : touches timed.2 = some key
  · rw [if_pos touched]
    exact ⟨timed.1, rfl, own key entry touched held⟩
  · rw [if_neg touched]
    obtain ⟨old, heldOld, sameAge⟩ := others key entry touched held
    obtain ⟨time, isLast, isAge⟩ := aged key old heldOld
    exact ⟨time, isLast, sameAge.symm.trans isAge⟩

theorem Aged.touch (aged : Aged age touches table calls) {timed : Nat × Call} {key : Key}
    (touched : touches timed.2 = some key)
    (own : ∀ entry, next.lookup key = some entry → age entry = UInt32.ofNat timed.1)
    (others : ∀ other entry, other ≠ key → next.lookup other = some entry →
      table.lookup other = some entry) : Aged age touches next (calls ++ [timed]) := by
  apply aged.step
  · intro other entry isTouched held
    rw [touched, Option.some.injEq] at isTouched
    subst isTouched
    exact own entry held
  · intro other entry untouched held
    have apart : other ≠ key := by
      rintro rfl
      exact untouched touched
    exact ⟨entry, others other entry apart held, rfl⟩

theorem Aged.written (aged : Aged age touches table calls) {timed : Nat × Call} {key : Key}
    (touched : touches timed.2 = some key) {written : Entry}
    (isAge : age written = UInt32.ofNat timed.1) {left : Key → Option Entry}
    (changed : ∀ other, next.lookup other = if key = other then some written else left other)
    (kept : ∀ other entry, left other = some entry → table.lookup other = some entry) :
    Aged age touches next (calls ++ [timed]) := by
  apply aged.touch touched
  · intro entry held
    rw [changed, if_pos rfl] at held
    cases held
    exact isAge
  · intro other entry apart held
    rw [changed, if_neg apart.symm] at held
    exact kept other entry held

/-- No key in use was touched last before the victim was. -/
structure LeastRecent (touches : Call → Option Key) (calls : List (Nat × Call))
    (table : Keyed Entry keyOf capacity) (victim : Key) : Prop where
  inUse : (table.lookup victim).isSome = true
  earliest : ∀ other, (table.lookup other).isSome = true →
    ∀ time, lastTouch touches calls victim = some time →
    ∀ later, lastTouch touches calls other = some later → time ≤ later

/-- Cutting the last uses to 32 bits keeps their order, and not all of them become the
greatest number. -/
structure OrderKept (touches : Call → Option Key) (calls : List (Nat × Call))
    (table : Keyed Entry keyOf capacity) : Prop where
  ordered : ∀ first second, (table.lookup first).isSome = true →
    (table.lookup second).isSome = true →
    ∀ time, lastTouch touches calls first = some time →
    ∀ later, lastTouch touches calls second = some later →
      time < later → time % 2 ^ 32 < later % 2 ^ 32
  below : ∃ key, (table.lookup key).isSome = true ∧
    ∀ time, lastTouch touches calls key = some time → time % 2 ^ 32 ≠ 2 ^ 32 - 1

theorem OrderKept.of_early {key : Key} (used : (table.lookup key).isSome = true)
    (early : ∀ other, (table.lookup other).isSome = true →
      ∀ time, lastTouch touches calls other = some time → time < 2 ^ 32 - 1) :
    OrderKept touches calls table := by
  constructor
  · intro first second usedFirst usedSecond time isTime later isLater order
    have firstEarly := early first usedFirst time isTime
    have secondEarly := early second usedSecond later isLater
    omega
  · refine ⟨key, used, ?_⟩
    intro time isTime
    have keyEarly := early key used time isTime
    omega

/-- A full table evicts an entry that was used least recently. -/
theorem Aged.claim_least_recent (aged : Aged age touches table calls)
    (full : findEmpty table.slots = none) (kept : OrderKept touches calls table) :
    ∃ index victim, claim true age table.slots = some (index, true) ∧
      table.slots.get index = some victim ∧
      LeastRecent touches calls table (keyOf victim) := by
  cases found : findLru age table.slots with
  | none =>
      obtain ⟨key, used, below⟩ := kept.below
      obtain ⟨entry, known⟩ := Option.isSome_iff_exists.mp used
      obtain ⟨slot, held, _⟩ := Keyed.lookup_some known
      obtain ⟨time, isLast, isAge⟩ := aged key entry known
      have greatest := find_lru_none found held
      rw [isAge] at greatest
      have cut := congrArg UInt32.toNat greatest
      rw [UInt32.toNat_ofNat'] at cut
      exact absurd cut (below time isLast)
  | some index =>
      obtain ⟨victim, held, least⟩ := find_lru_some found
      have known := Keyed.lookup_held held rfl
      refine ⟨index, victim, by simp [claim, full, found], held, by rw [known]; rfl, ?_⟩
      intro other used time isTime later isLater
      obtain ⟨entry, knownOther⟩ := Option.isSome_iff_exists.mp used
      obtain ⟨slot, heldOther, _⟩ := Keyed.lookup_some knownOther
      obtain ⟨first, isFirst, victimAge⟩ := aged (keyOf victim) victim known
      obtain ⟨second, isSecond, otherAge⟩ := aged other entry knownOther
      cases isFirst.symm.trans isTime
      cases isSecond.symm.trans isLater
      have younger := least slot entry heldOther
      rw [victimAge, otherAge, UInt32.le_iff_toNat_le, UInt32.toNat_ofNat',
        UInt32.toNat_ofNat'] at younger
      by_contra earlier
      have order := kept.ordered other (keyOf victim) used (by rw [known]; rfl) later isLater
        time isTime (Nat.lt_of_not_le earlier)
      omega

end Uses

/-! ## Filling a table -/

section Fill

variable [DecidableEq Key] {keyOf : Entry → Key} {State : Type}

/-- Entries for different keys, one after the other, fill the table without an eviction. -/
theorem fill_known (tableOf : State → Keyed Entry keyOf capacity) (good : State → Prop)
    (put : State → Nat → State) (keys : Nat → Key)
    (apart : ∀ first second, first < capacity → second < capacity →
      keys first = keys second → first = second)
    (puts : ∀ state number, good state → (tableOf state).lookup (keys number) = none →
      (∃ free, findEmpty (tableOf state).slots = some free) →
      good (put state number) ∧
        ∀ key, ((tableOf (put state number)).lookup key).isSome = true ↔
          key = keys number ∨ ((tableOf state).lookup key).isSome = true)
    {start : State} (starts : good start) (empty : ∀ key, (tableOf start).lookup key = none)
    (count : Nat) (fits : count ≤ capacity) :
    good ((List.range count).foldl put start) ∧
      ∀ key, ((tableOf ((List.range count).foldl put start)).lookup key).isSome = true ↔
        ∃ number < count, key = keys number := by
  induction count with
  | zero =>
      refine ⟨starts, ?_⟩
      intro key
      simp [empty]
  | succ count induction =>
      obtain ⟨fine, known⟩ := induction (Nat.le_of_succ_le fits)
      rw [List.range_succ, List.foldl_append]
      have fresh : (tableOf ((List.range count).foldl put start)).lookup (keys count) = none := by
        apply Option.not_isSome_iff_eq_none.mp
        intro used
        obtain ⟨number, below, same⟩ := (known (keys count)).mp used
        have equal := apart count number fits (below.trans fits) same
        omega
      have room := (tableOf ((List.range count).foldl put start)).exists_empty
        ((Finset.range count).image keys)
        (by
          intro index entry held
          obtain ⟨number, below, isKey⟩ := (known (keyOf entry)).mp
            (by rw [Keyed.lookup_held held rfl]; rfl)
          exact Finset.mem_image.mpr ⟨number, Finset.mem_range.mpr below, isKey.symm⟩)
        (by
          have bound := @Finset.card_image_le _ _ (Finset.range count) keys _
          rw [Finset.card_range] at bound
          omega)
      obtain ⟨fineNext, knownNext⟩ := puts _ count fine fresh room
      refine ⟨fineNext, ?_⟩
      intro key
      refine (knownNext key).trans ?_
      rw [known]
      constructor
      · intro used
        cases used with
        | inl isLast => exact ⟨count, Nat.lt_succ_self count, isLast⟩
        | inr earlier =>
            obtain ⟨number, below, isKey⟩ := earlier
            exact ⟨number, Nat.lt_succ_of_lt below, isKey⟩
      · rintro ⟨number, below, isKey⟩
        cases Nat.lt_succ_iff_lt_or_eq.mp below with
        | inl earlier => exact .inr ⟨number, earlier, isKey⟩
        | inr isLast => exact .inl (isLast ▸ isKey)

theorem last_touch_fill {touches : Call → Option Key} (times : Nat → Nat) (call : Nat → Call)
    (keys : Nat → Key) (own : ∀ number, touches (call number) = some (keys number)) {count : Nat}
    (apart : ∀ first second, first < count → second < count →
      keys first = keys second → first = second) {number : Nat} (below : number < count) :
    lastTouch touches ((List.range count).map fun number => (times number, call number))
      (keys number) = some (times number) := by
  induction count with
  | zero => exact absurd below (Nat.not_lt_zero number)
  | succ count induction =>
      rw [List.range_succ, List.map_append, List.map_singleton, last_touch_snoc, own]
      by_cases isLast : number = count
      · rw [isLast, if_pos rfl]
      · have earlier : number < count := by omega
        have different : ¬some (keys count) = some (keys number) := by
          intro same
          have equal := apart count number (Nat.lt_succ_self count) below (Option.some.inj same)
          omega
        rw [if_neg different]
        apply induction _ earlier
        intro first second firstBelow secondBelow
        exact apart first second (Nat.lt_succ_of_lt firstBelow) (Nat.lt_succ_of_lt secondBelow)

end Fill

end SlotTable
