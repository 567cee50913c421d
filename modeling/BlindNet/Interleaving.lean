import Mathlib.Data.Fintype.Card
import BlindNet.SeenCache

/-!
# Interleaved reassembly

The frames of up to four pills, in any order and with any repetitions. Each pill
has its own slot from its first frame to its last, and afterwards its id is in
the seen cache, where the few other pills cannot displace it.
-/

namespace BlindNet

set_option autoImplicit false

open ByteLayout RecencyRing

section Slots

variable {slots : Fin g2gRxSlots → RxSlot} {messageId other : MessageId} {bytes : Bytes}
  {received taken : Finset Nat} {target : Fin g2gRxSlots}

def freeSlots (slots : Fin g2gRxSlots → RxSlot) : Finset (Fin g2gRxSlots) :=
  Finset.univ.filter fun index => (slots index).inUse = false

theorem Gathering.update_other (gathering : Gathering slots other bytes received)
    (isTarget : Target slots messageId taken target) (different : other ≠ messageId)
    {next : RxSlot} (foreign : ¬ next.HeldFor other) :
    Gathering (Function.update slots target next) other bytes received := by
  rcases gathering with ⟨none, absent⟩ | ⟨some, holder, gathers, only⟩
  · refine Or.inl ⟨none, ?_⟩
    intro index held
    by_cases same : index = target
    · rw [same, Function.update_self] at held
      exact foreign held
    · rw [Function.update_of_ne same] at held
      exact absent index held
  · have elsewhere : holder ≠ target := by
      intro same
      subst same
      have named := isTarget.own gathers.inUse
      rw [gathers.messageId] at named
      exact different named
    refine Or.inr ⟨some, holder, ?_, ?_⟩
    · rw [Function.update_of_ne elsewhere]
      exact gathers
    · intro index held
      by_cases same : index = target
      · rw [same, Function.update_self] at held
        exact absurd held foreign
      · rw [Function.update_of_ne same] at held
        exact only index held

theorem free_slots_update (slots : Fin g2gRxSlots → RxSlot) (target : Fin g2gRxSlots)
    (next : RxSlot) :
    (freeSlots slots).erase target ⊆ freeSlots (Function.update slots target next) := by
  intro index member
  rcases Finset.mem_erase.mp member with ⟨different, free⟩
  rw [freeSlots, Finset.mem_filter] at free ⊢
  rw [Function.update_of_ne different]
  exact free

theorem Target.mem_free (isTarget : Target slots messageId received target) :
    target ∈ freeSlots slots ↔ received = ∅ := by
  rw [freeSlots, Finset.mem_filter, ← isTarget.taken]
  exact ⟨fun free => free.2, fun free => ⟨Finset.mem_univ target, free⟩⟩

end Slots

section Progress

variable {count : Nat}

/-- The pills of which no frame, and those of which every frame was received. -/
def untouched (received : Fin count → Finset Nat) : Finset (Fin count) :=
  Finset.univ.filter fun pill => received pill = ∅

def finished (received : Fin count → Finset Nat) : Finset (Fin count) :=
  Finset.univ.filter fun pill => received pill = Finset.range 3

def extend (received : Fin count → Finset Nat) (which : Fin count) (index : Nat) :
    Fin count → Finset Nat :=
  Function.update received which (insert index (received which))

variable {received : Fin count → Finset Nat} {which : Fin count} {index : Nat}

theorem mem_untouched {pill : Fin count} : pill ∈ untouched received ↔ received pill = ∅ := by
  simp [untouched]

theorem mem_finished {pill : Fin count} :
    pill ∈ finished received ↔ received pill = Finset.range 3 := by
  simp [finished]

theorem extend_self : extend received which index which = insert index (received which) :=
  Function.update_self _ _ _

theorem extend_other {pill : Fin count} (different : pill ≠ which) :
    extend received which index pill = received pill :=
  Function.update_of_ne different _ _

theorem extend_received (again : index ∈ received which) :
    extend received which index = received := by
  rw [extend, Finset.insert_eq_of_mem again, Function.update_eq_self]

theorem untouched_extend :
    untouched (extend received which index) ⊆ (untouched received).erase which := by
  intro pill member
  rw [mem_untouched] at member
  by_cases same : pill = which
  · rw [same, extend_self] at member
    exact absurd member (Finset.insert_ne_empty _ _)
  · rw [extend_other same] at member
    exact Finset.mem_erase.mpr ⟨same, mem_untouched.mpr member⟩

theorem finished_extend_open (pending : received which ≠ Finset.range 3)
    (more : insert index (received which) ≠ Finset.range 3) :
    finished (extend received which index) = finished received := by
  ext pill
  rw [mem_finished, mem_finished]
  by_cases same : pill = which
  · rw [same, extend_self]
    exact ⟨fun whole => absurd whole more, fun whole => absurd whole pending⟩
  · rw [extend_other same]

theorem finished_extend_last (last : insert index (received which) = Finset.range 3) :
    finished (extend received which index) = insert which (finished received) := by
  ext pill
  rw [Finset.mem_insert, mem_finished, mem_finished]
  by_cases same : pill = which
  · rw [same, extend_self]
    exact ⟨fun _ => Or.inl rfl, fun _ => last⟩
  · rw [extend_other same]
    exact ⟨fun whole => Or.inr whole, fun whole => whole.resolve_left same⟩

end Progress

/-- What holds after some frames of the pills: a pill that is not finished is
unseen and its frames are exactly those gathered; finished pills are among the
newest ids of the seen cache, and they are what was handled. -/
structure Interleaved {count : Nat} (pills : Fin count → ActionPill)
    (ids : Fin count → MessageId) (received : Fin count → Finset Nat) (guardian : Guardian)
    (events : List Event) : Prop where
  within : ∀ pill, received pill ⊆ Finset.range 3
  pending : ∀ pill, received pill ≠ Finset.range 3 →
    ids pill ∉ guardian.g2g.seenCache.recent ∧
    Gathering guardian.g2g.rxSlots (ids pill) (ActionPill.layout.encode (pills pill))
      (received pill)
  room : (untouched received).card ≤ (freeSlots guardian.g2g.rxSlots).card
  newest : ∃ newest, newest <+: guardian.g2g.seenCache.recent ∧
    newest.length ≤ 2 * (finished received).card ∧ ∀ pill ∈ finished received, ids pill ∈ newest
  once : (handledPills events).Nodup
  exact : ∀ pill, pill ∈ handledPills events ↔ ∃ which ∈ finished received, pills which = pill

section Step

variable {count : Nat} {pills : Fin count → ActionPill} {ids : Fin count → MessageId}
  {received : Fin count → Finset Nat} {guardian : Guardian} {events : List Event}
  {crypto : Crypto} {which : Fin count} {index : Nat} {target : Fin g2gRxSlots}

theorem within_extend (within : ∀ pill, received pill ⊆ Finset.range 3) (inside : index < 3) :
    ∀ pill, extend received which index pill ⊆ Finset.range 3 := by
  intro pill
  by_cases same : pill = which
  · rw [same, extend_self]
    exact Finset.insert_subset (Finset.mem_range.mpr inside) (within which)
  · rw [extend_other same]
    exact within pill

/-- The slot a frame uses up is the one its pill had counted on. -/
theorem room_extend {slots : Fin g2gRxSlots → RxSlot}
    (room : (untouched received).card ≤ (freeSlots slots).card)
    (isTarget : Target slots (ids which) (received which) target) (next : RxSlot) :
    (untouched (extend received which index)).card ≤
      (freeSlots (Function.update slots target next)).card := by
  have balanced : which ∈ untouched received ↔ target ∈ freeSlots slots := by
    rw [mem_untouched, isTarget.mem_free]
  have erased :
      ((untouched received).erase which).card ≤ ((freeSlots slots).erase target).card := by
    by_cases fresh : which ∈ untouched received
    · rw [Finset.card_erase_of_mem fresh, Finset.card_erase_of_mem (balanced.mp fresh)]
      omega
    · rw [Finset.erase_eq_of_notMem fresh,
        Finset.erase_eq_of_notMem fun free => fresh (balanced.mpr free)]
      exact room
  calc (untouched (extend received which index)).card
      ≤ ((untouched received).erase which).card := Finset.card_le_card untouched_extend
    _ ≤ ((freeSlots slots).erase target).card := erased
    _ ≤ (freeSlots (Function.update slots target next)).card :=
        Finset.card_le_card (free_slots_update slots target next)

theorem Interleaved.stored (interleaved : Interleaved pills ids received guardian events)
    (distinct : Function.Injective ids) (inside : index < 3)
    (pending : received which ≠ Finset.range 3)
    (more : insert index (received which) ≠ Finset.range 3)
    (isTarget : Target guardian.g2g.rxSlots (ids which) (received which) target) {next : RxSlot}
    (gathers : next.Gathers (ids which) (ActionPill.layout.encode (pills which))
      (insert index (received which))) :
    Interleaved pills ids (extend received which index)
      { guardian with g2g := ⟨guardian.g2g.seenCache,
        Function.update guardian.g2g.rxSlots target next⟩ } events := by
  have done := finished_extend_open pending more
  constructor
  · exact within_extend interleaved.within inside
  · intro pill waits
    by_cases same : pill = which
    · subst same
      rw [extend_self]
      exact ⟨(interleaved.pending pill pending).1,
        isTarget.gathering (Finset.insert_ne_empty _ _) gathers⟩
    · rw [extend_other same] at waits ⊢
      have foreign : ¬ next.HeldFor (ids pill) := by
        intro held
        exact same (distinct (held.2.symm.trans gathers.messageId))
      rcases interleaved.pending pill waits with ⟨unseen, gathering⟩
      exact ⟨unseen, gathering.update_other isTarget (distinct.ne same) foreign⟩
  · exact room_extend interleaved.room isTarget next
  · rw [done]
    exact interleaved.newest
  · exact interleaved.once
  · rw [done]
    exact interleaved.exact

/-- A pill that is not complete was not handled: pills with one content have one id,
so it would be the same pill. -/
theorem Interleaved.not_handled (interleaved : Interleaved pills ids received guardian events)
    (distinct : Function.Injective ids)
    (digests : ∀ pill, computeInnerId crypto (pills pill) = .ok (ids pill))
    (unfinished : which ∉ finished received) : pills which ∉ handledPills events := by
  intro handled
  rcases (interleaved.exact (pills which)).mp handled with ⟨earlier, isFinished, equal⟩
  have sameIds : ids earlier = ids which := by
    have first := digests earlier
    rw [equal, digests which, Except.ok.injEq] at first
    exact first.symm
  exact unfinished (distinct sameIds ▸ isFinished)

theorem Interleaved.completed (interleaved : Interleaved pills ids received guardian events)
    (few : count ≤ 4) (distinct : Function.Injective ids)
    (digests : ∀ pill, computeInnerId crypto (pills pill) = .ok (ids pill)) (inside : index < 3)
    (pending : received which ≠ Finset.range 3)
    (last : insert index (received which) = Finset.range 3) {reception : Reception}
    (handles : Handles crypto guardian reception (pills which) (ids which))
    (isTarget : Target guardian.g2g.rxSlots (ids which) (received which) target)
    (freed : (guardian.g2g.receive reception.frame).2.rxSlots =
      Function.update guardian.g2g.rxSlots target RxSlot.empty) :
    Interleaved pills ids (extend received which index)
      (onFragmentReceived crypto guardian reception).1
      (events ++ (onFragmentReceived crypto guardian reception).2) := by
  have done := finished_extend_last last
  have unfinished : which ∉ finished received := by
    rw [mem_finished]
    exact pending
  have handled : handledPills (events ++ (onFragmentReceived crypto guardian reception).2) =
      handledPills events ++ [pills which] := by
    rw [handled_pills_append, handles.handled_pills]
  have state := handles.g2g
  rw [freed] at state
  constructor
  · exact within_extend interleaved.within inside
  · intro pill waits
    have other : pill ≠ which := by
      intro same
      rw [same, extend_self] at waits
      exact waits last
    rw [extend_other other] at waits ⊢
    rcases interleaved.pending pill waits with ⟨unseen, gathering⟩
    rw [state]
    constructor
    · intro seen
      rcases seen_after_handling_subset seen with same | before
      · exact other (distinct same)
      · exact unseen before
    · apply gathering.update_other isTarget (distinct.ne other)
      intro held
      exact absurd held.1 (by decide)
  · rw [state]
    exact room_extend interleaved.room isTarget RxSlot.empty
  · rcases interleaved.newest with ⟨newest, front, short, holds⟩
    have bounded : (finished received).card ≤ count := by
      have whole := Finset.card_le_univ (finished received)
      rwa [Fintype.card_fin] at whole
    have size : g2gSeenCacheSize = 32 := rfl
    rcases seen_after_handling_newest front (by omega) reception.env.ble (ids which)
      with ⟨later, laterFront, grown, own, kept⟩
    rw [state, done, Finset.card_insert_of_notMem unfinished]
    refine ⟨later, laterFront, by omega, ?_⟩
    intro pill member
    rcases Finset.mem_insert.mp member with same | before
    · rw [same]
      exact own
    · exact kept (holds pill before)
  · rw [handled, List.nodup_append]
    refine ⟨interleaved.once, List.nodup_singleton _, ?_⟩
    intro old isOld new isNew same
    rw [List.mem_singleton] at isNew
    rw [same, isNew] at isOld
    exact interleaved.not_handled distinct digests unfinished isOld
  · intro pill
    rw [handled, done, List.mem_append, List.mem_singleton, interleaved.exact]
    constructor
    · intro cases
      rcases cases with ⟨earlier, isFinished, equal⟩ | now
      · exact ⟨earlier, Finset.mem_insert_of_mem isFinished, equal⟩
      · exact ⟨which, Finset.mem_insert_self _ _, now.symm⟩
    · intro found
      rcases found with ⟨earlier, isFinished, equal⟩
      rcases Finset.mem_insert.mp isFinished with same | before
      · exact Or.inr (by rw [← equal, same])
      · exact Or.inl ⟨earlier, before, equal⟩

theorem interleaved_step (few : count ≤ 4) (distinct : Function.Injective ids)
    (digests : ∀ pill, computeInnerId crypto (pills pill) = .ok (ids pill))
    (interleaved : Interleaved pills ids received guardian events) (which : Fin count)
    (inside : index < 3) (env : Environment) :
    Interleaved pills ids (extend received which index)
      (onFragmentReceived crypto guardian ⟨pillFrame (pills which) (ids which) index, env⟩).1
      (events ++ (onFragmentReceived crypto guardian
        ⟨pillFrame (pills which) (ids which) index, env⟩).2) := by
  by_cases whole : received which = Finset.range 3
  · -- A late repetition: the id is in the seen cache.
    rcases interleaved.newest with ⟨newest, front, -, holds⟩
    have seen : ids which ∈ guardian.g2g.seenCache.recent :=
      front.subset (holds which (mem_finished.mpr whole))
    have again : index ∈ received which := by
      rw [whole, Finset.mem_range]
      exact inside
    rw [seen_frame_ignored crypto (by rw [pill_frame_id]; exact seen), List.append_nil,
      extend_received again]
    exact interleaved
  · rcases interleaved.pending which whole with ⟨unseen, gathering⟩
    have partly : (∃ index, (guardian.g2g.rxSlots index).inUse = false) ∨ received which ≠ ∅ := by
      by_cases fresh : received which = ∅
      · have positive : 0 < (untouched received).card :=
          Finset.card_pos.mpr ⟨which, mem_untouched.mpr fresh⟩
        rcases Finset.card_pos.mp (lt_of_lt_of_le positive interleaved.room) with ⟨slot, free⟩
        exact Or.inl ⟨slot, (Finset.mem_filter.mp free).2⟩
      · exact Or.inr fresh
    rcases @receive_pill_frame (pills which) (ids which) crypto guardian (received which) gathering
        partly unseen (digests which) index inside
        ⟨pillFrame (pills which) (ids which) index, env⟩ rfl
      with ⟨again, same⟩ | ⟨-, last, handles, target, isTarget, freed⟩ |
        ⟨-, more, target, next, isTarget, gathers, step⟩
    · rw [same, List.append_nil, extend_received again]
      exact interleaved
    · exact interleaved.completed few distinct digests inside whole last handles isTarget freed
    · rw [step, List.append_nil]
      exact interleaved.stored distinct inside whole more isTarget gathers

def frameOf (pills : Fin count → ActionPill) (ids : Fin count → MessageId)
    (entry : Fin count × Fin 3 × Environment) : Reception :=
  ⟨pillFrame (pills entry.1) (ids entry.1) entry.2.1, entry.2.2⟩

theorem interleaved_run (few : count ≤ 4) (distinct : Function.Injective ids)
    (digests : ∀ pill, computeInnerId crypto (pills pill) = .ok (ids pill))
    (order : List (Fin count × Fin 3 × Environment))
    (interleaved : Interleaved pills ids received guardian events) :
    ∃ later, (∀ pill, received pill ⊆ later pill) ∧
      (∀ entry ∈ order, (entry.2.1 : Nat) ∈ later entry.1) ∧
      Interleaved pills ids later
        (runGuardian crypto guardian (order.map (frameOf pills ids))).1
        (events ++ (runGuardian crypto guardian (order.map (frameOf pills ids))).2) := by
  induction order generalizing guardian events received with
  | nil =>
      refine ⟨received, fun _ => Finset.Subset.refl _, ?_, ?_⟩
      · intro entry member
        exact absurd member List.not_mem_nil
      · rw [List.map_nil, runGuardian, EventMachine.run_nil, List.append_nil]
        exact interleaved
  | cons entry rest induction =>
      rcases entry with ⟨which, index, env⟩
      have stepped := interleaved_step few distinct digests interleaved which index.isLt env
      rcases induction stepped with ⟨later, grown, collected, final⟩
      refine ⟨later, ?_, ?_, ?_⟩
      · intro pill
        by_cases same : pill = which
        · subst same
          exact (Finset.subset_insert _ _).trans (extend_self ▸ grown pill)
        · have unchanged := grown pill
          rwa [extend_other same] at unchanged
      · intro other member
        rcases List.mem_cons.mp member with rfl | member
        · apply grown which
          rw [extend_self]
          exact Finset.mem_insert_self _ _
        · exact collected other member
      · rw [List.append_assoc] at final
        exact final

theorem interleaved_start (unseen : ∀ pill, ids pill ∉ guardian.g2g.seenCache.recent)
    (absent : ∀ pill slot, ¬ (guardian.g2g.rxSlots slot).HeldFor (ids pill))
    (free : count ≤ (freeSlots guardian.g2g.rxSlots).card) :
    Interleaved pills ids (fun _ => ∅) guardian [] := by
  have none : finished (fun _ : Fin count => (∅ : Finset Nat)) = ∅ := by
    apply Finset.eq_empty_of_forall_notMem
    intro pill member
    exact absurd (mem_finished.mp member) (by decide)
  constructor
  · exact fun _ => Finset.empty_subset _
  · intro pill _
    exact ⟨unseen pill, Or.inl ⟨rfl, absent pill⟩⟩
  · refine le_trans ?_ free
    have whole := Finset.card_le_univ (untouched fun _ : Fin count => (∅ : Finset Nat))
    rwa [Fintype.card_fin] at whole
  · rw [none]
    exact ⟨[], List.nil_prefix, Nat.zero_le _,
      fun _ member => absurd member (Finset.notMem_empty _)⟩
  · exact List.nodup_nil
  · intro pill
    rw [none]
    simp [handledPills]

end Step

/-- From any state with as many free slots as there are pills, whose ids are
neither seen nor held, any sequence of the pills' frames in which every frame
occurs hands each pill to the handler exactly once. -/
theorem interleaved_delivery_exact (crypto : Crypto) (guardian : Guardian) (count : Nat)
    (pills : Fin count → ActionPill) (ids : Fin count → MessageId)
    (digests : ∀ pill, computeInnerId crypto (pills pill) = .ok (ids pill))
    (distinct : Function.Injective ids)
    (unseen : ∀ pill, ids pill ∉ guardian.g2g.seenCache.recent)
    (absent : ∀ pill slot, ¬ (guardian.g2g.rxSlots slot).HeldFor (ids pill))
    (free : count ≤ (freeSlots guardian.g2g.rxSlots).card)
    (order : List (Fin count × Fin 3 × Environment))
    (complete : ∀ pill index, ∃ env, (pill, index, env) ∈ order) :
    (handledPills (runGuardian crypto guardian (order.map (frameOf pills ids))).2).Perm
      (List.ofFn pills) := by
  have few : count ≤ 4 := by
    have slots := Finset.card_le_univ (freeSlots guardian.g2g.rxSlots)
    rw [Fintype.card_fin] at slots
    exact le_trans free slots
  rcases interleaved_run few distinct digests order (interleaved_start unseen absent free)
    with ⟨received, -, collected, final⟩
  rw [List.nil_append] at final
  have whole : ∀ pill, pill ∈ finished received := by
    intro pill
    rw [mem_finished]
    apply Finset.Subset.antisymm (final.within pill)
    intro index member
    rcases complete pill ⟨index, Finset.mem_range.mp member⟩ with ⟨env, occurs⟩
    exact collected _ occurs
  have injective : Function.Injective pills := by
    intro first second same
    apply distinct
    have digest := digests first
    rw [same, digests second, Except.ok.injEq] at digest
    exact digest.symm
  rw [List.perm_ext_iff_of_nodup final.once (List.nodup_ofFn.mpr injective)]
  intro pill
  rw [final.exact, List.mem_ofFn]
  constructor
  · rintro ⟨which, -, same⟩
    exact ⟨which, same⟩
  · rintro ⟨which, same⟩
    exact ⟨which, whole which, same⟩

def benchPills : Fin 2 → ActionPill
  | 0 => lampPill
  | 1 => forgedPill 0

def benchIds : Fin 2 → MessageId
  | 0 => lampBuild.messageId
  | 1 => forgedId 0

local instance neZeroThree : NeZero 3 := ⟨by decide⟩

def benchOrder : List (Fin 2 × Fin 3 × Environment) :=
  [(0, 2), (1, 1), (0, 0), (0, 2), (1, 0), (0, 1), (1, 2), (0, 1)].map
    fun (which, index) => (which, index, benchEnvironment)

theorem bench_pills_digest (which : Fin 2) :
    computeInnerId benchCrypto (benchPills which) = .ok (benchIds which) := by
  match which with
  | 0 => exact lamp_pill_digest
  | 1 => exact forged_pill_digest 0

theorem pair_injective {Value : Type} {values : Fin 2 → Value} (unequal : values 0 ≠ values 1) :
    Function.Injective values := by
  intro first second same
  match first, second with
  | 0, 0 => rfl
  | 0, 1 => exact absurd same unequal
  | 1, 0 => exact absurd same.symm unequal
  | 1, 1 => rfl

theorem bench_ids_distinct : Function.Injective benchIds :=
  pair_injective (by decide +kernel)

theorem bench_pills_delivered :
    (handledPills (runGuardian benchCrypto lampGuardian
      (benchOrder.map (frameOf benchPills benchIds))).2).Perm [lampPill, forgedPill 0] := by
  have absent : ∀ pill slot, ¬ (lampGuardian.g2g.rxSlots slot).HeldFor (benchIds pill) := by
    intro pill slot held
    rw [RxSlot.HeldFor, lamp_guardian_idle slot] at held
    exact absurd held.1 (by decide)
  have free : 2 ≤ (freeSlots lampGuardian.g2g.rxSlots).card := by
    rw [freeSlots, Finset.filter_true_of_mem fun slot _ => lamp_guardian_idle slot]
    decide
  have complete : ∀ pill index, ∃ env, (pill, index, env) ∈ benchOrder := by
    intro pill index
    refine ⟨benchEnvironment, List.mem_map.mpr ⟨(pill, index), ?_, rfl⟩⟩
    revert pill index
    decide
  exact interleaved_delivery_exact benchCrypto lampGuardian 2 benchPills benchIds
    bench_pills_digest bench_ids_distinct (fun _ => by simp [lampGuardian, G2g.boot]) absent free
    benchOrder complete

end BlindNet
