import Mathlib.Data.List.Find
import Mathlib.Data.List.Nodup
import Mathlib.Data.Set.List
import BlindNet.Lib.KeyedTable

/-!
# Bounded maps

A bounded map is a list of at most `capacity` records with pairwise different keys. An
operation that does not apply gives no map. The map is stored in a fixed array with a fill
count by writing the image of each record in order and leaving the rest blank; appending,
rewriting and taking out cells of that array are then the operations of the map.
-/

set_option autoImplicit false

@[ext] structure BoundedMap {Record Key : Type} (key : Record → Key) (capacity : Nat) where
  records : List Record
  distinct : (records.map key).Nodup
  bounded : records.length ≤ capacity

namespace BoundedMap

open PrefixArray

variable {Record Key Cell : Type} [DecidableEq Key] {key : Record → Key} {capacity : Nat}

def empty : BoundedMap key capacity :=
  ⟨[], List.nodup_nil, Nat.zero_le capacity⟩

def lookup (map : BoundedMap key capacity) (wanted : Key) : Option Record :=
  map.records.find? fun record => decide (key record = wanted)

theorem lookup_eq_none_iff {map : BoundedMap key capacity} {wanted : Key} :
    map.lookup wanted = none ↔ wanted ∉ map.records.map key := by
  simp [lookup]

theorem lookup_is_some_iff {map : BoundedMap key capacity} {wanted : Key} :
    (map.lookup wanted).isSome = true ↔ wanted ∈ map.records.map key := by
  rw [← Option.ne_none_iff_isSome, ne_eq, lookup_eq_none_iff, not_not]

/-! ## Operations -/

def insert (map : BoundedMap key capacity) (record : Record) : Option (BoundedMap key capacity) :=
  if held : key record ∈ map.records.map key then none
  else if room : map.records.length < capacity then
    some ⟨map.records ++ [record], by
      rw [List.map_append, List.map_singleton]
      exact List.nodup_append_comm.mp (List.nodup_cons.mpr ⟨held, map.distinct⟩), by
      rw [List.length_append, List.length_singleton]
      exact room⟩
  else none

def erase (map : BoundedMap key capacity) (wanted : Key) : Option (BoundedMap key capacity) :=
  if wanted ∈ map.records.map key then
    some ⟨map.records.filter fun record => decide (key record ≠ wanted),
      map.distinct.sublist (List.filter_sublist.map key),
      Nat.le_trans (List.length_filter_le _ _) map.bounded⟩
  else none

theorem map_replace_keys (records : List Record) (record : Record) :
    (records.map fun old => if key old = key record then record else old).map key =
      records.map key := by
  rw [List.map_map]
  apply List.map_congr_left
  intro old held
  rw [Function.comp_apply]
  split
  · rename_i same
    exact same.symm
  · rfl

def overwrite (map : BoundedMap key capacity) (record : Record) :
    Option (BoundedMap key capacity) :=
  if key record ∈ map.records.map key then
    some ⟨map.records.map fun old => if key old = key record then record else old, by
      rw [map_replace_keys]
      exact map.distinct, by
      rw [List.length_map]
      exact map.bounded⟩
  else none

/-! ## What an operation changes -/

structure Inserted (map next : BoundedMap key capacity) (record : Record) : Prop where
  fresh : map.lookup (key record) = none
  records : next.records = map.records ++ [record]
  lookup : ∀ wanted,
    next.lookup wanted = if wanted = key record then some record else map.lookup wanted

structure Erased (map next : BoundedMap key capacity) (gone : Key) : Prop where
  split : ∃ before record after, key record = gone ∧
    map.records = before ++ record :: after ∧ next.records = before ++ after
  lookup : ∀ wanted, next.lookup wanted = if wanted = gone then none else map.lookup wanted

structure Overwritten (map next : BoundedMap key capacity) (record : Record) : Prop where
  split : ∃ before old after, key old = key record ∧
    map.records = before ++ old :: after ∧ next.records = before ++ record :: after
  lookup : ∀ wanted,
    next.lookup wanted = if wanted = key record then some record else map.lookup wanted

theorem insert_eq_some {map next : BoundedMap key capacity} {record : Record}
    (inserted : map.insert record = some next) : map.Inserted next record := by
  unfold insert at inserted
  split_ifs at inserted with held room
  cases inserted
  have absent := lookup_eq_none_iff.mpr held
  apply Inserted.mk absent rfl
  intro wanted
  by_cases same : wanted = key record
  · rw [if_pos same, same]
    unfold lookup at absent ⊢
    rw [List.find?_append, absent, Option.none_or]
    simp
  · have other : ¬ key record = wanted := fun equal => same equal.symm
    rw [if_neg same]
    unfold lookup
    rw [List.find?_append]
    simp [other]

theorem insert_eq_none_iff {map : BoundedMap key capacity} {record : Record} :
    map.insert record = none ↔
      (map.lookup (key record)).isSome = true ∨ map.records.length = capacity := by
  have bounded := map.bounded
  rw [lookup_is_some_iff]
  unfold insert
  split_ifs with held room
  · simp [held]
  · have notFull : map.records.length ≠ capacity := Nat.ne_of_lt room
    simp [held, notFull]
  · have full : map.records.length = capacity := by omega
    simp [full]

theorem insert_with_room {map : BoundedMap key capacity} {record : Record}
    (room : map.records.length < capacity) :
    (map.lookup (key record)).isSome = (map.insert record).isNone := by
  rw [Bool.eq_iff_iff, Option.isNone_iff_eq_none, insert_eq_none_iff]
  simp [Nat.ne_of_lt room]

omit [DecidableEq Key] in
theorem exists_split {map : BoundedMap key capacity} {wanted : Key}
    (held : wanted ∈ map.records.map key) :
    ∃ before record after, key record = wanted ∧ map.records = before ++ record :: after := by
  rcases List.mem_map.mp held with ⟨record, member, same⟩
  rcases List.append_of_mem member with ⟨before, after, split⟩
  exact ⟨before, record, after, same, split⟩

omit [DecidableEq Key] in
theorem others_differ (map : BoundedMap key capacity) {before after : List Record}
    {record : Record} (split : map.records = before ++ record :: after) :
    (∀ other ∈ before, key other ≠ key record) ∧ ∀ other ∈ after, key other ≠ key record := by
  have distinct := map.distinct
  rw [split, List.map_append, List.map_cons, List.nodup_append, List.nodup_cons] at distinct
  rcases distinct with ⟨_, ⟨notLater, _⟩, across⟩
  constructor
  · intro other member
    exact across _ (List.mem_map_of_mem member) _ List.mem_cons_self
  · intro other member same
    apply notLater
    rw [← same]
    exact List.mem_map_of_mem member

theorem filter_others (map : BoundedMap key capacity) {before after : List Record}
    {record : Record} (split : map.records = before ++ record :: after) :
    (map.records.filter fun other => decide (key other ≠ key record)) = before ++ after := by
  rcases map.others_differ split with ⟨earlier, later⟩
  rw [split, List.filter_append, List.filter_cons_of_neg (by simp)]
  rw [List.filter_eq_self.mpr (by simpa using earlier),
    List.filter_eq_self.mpr (by simpa using later)]

theorem replace_at (map : BoundedMap key capacity) {before after : List Record}
    {old record : Record} (same : key old = key record)
    (split : map.records = before ++ old :: after) :
    (map.records.map fun other => if key other = key record then record else other) =
      before ++ record :: after := by
  rcases map.others_differ split with ⟨earlier, later⟩
  rw [same] at earlier later
  have unchanged : ∀ others : List Record, (∀ other ∈ others, key other ≠ key record) →
      (others.map fun other => if key other = key record then record else other) = others := by
    intro others differ
    rw [List.map_congr_left fun other member => if_neg (differ other member)]
    exact List.map_id' others
  rw [split, List.map_append, List.map_cons, if_pos same, unchanged before earlier,
    unchanged after later]

theorem first_at (map : BoundedMap key capacity) {before after : List Record}
    {record : Record} (split : map.records = before ++ record :: after) :
    FirstAt (fun other => decide (key other = key record)) map.records before record after := by
  apply FirstAt.mk split
  · simp
  · intro other member
    simpa using (map.others_differ split).1 other member

theorem erase_eq_some {map next : BoundedMap key capacity} {gone : Key}
    (erased : map.erase gone = some next) : map.Erased next gone := by
  unfold erase at erased
  split_ifs at erased with held
  cases erased
  rcases exists_split held with ⟨before, record, after, same, split⟩
  have others := map.filter_others split
  rw [same] at others
  apply Erased.mk ⟨before, record, after, same, split, others⟩
  intro wanted
  unfold lookup
  rw [List.find?_filter]
  by_cases equal : wanted = gone
  · rw [if_pos equal, List.find?_eq_none]
    intro other member
    simp [equal]
  · rw [if_neg equal]
    congr 1
    funext other
    by_cases found : key other = wanted
    · simp [found, equal]
    · simp [found]

theorem erase_length {map next : BoundedMap key capacity} {gone : Key}
    (erased : map.erase gone = some next) : map.records.length - 1 = next.records.length := by
  rcases (erase_eq_some erased).split with ⟨before, record, after, _, whole, rest⟩
  rw [whole, rest, List.length_append, List.length_append, List.length_cons]
  omega

theorem erase_eq_none_iff {map : BoundedMap key capacity} {gone : Key} :
    map.erase gone = none ↔ map.lookup gone = none := by
  rw [lookup_eq_none_iff]
  unfold erase
  split_ifs with held
  · simp [held]
  · simp [held]

theorem overwrite_eq_some {map next : BoundedMap key capacity} {record : Record}
    (overwritten : map.overwrite record = some next) : map.Overwritten next record := by
  unfold overwrite at overwritten
  split_ifs at overwritten with held
  cases overwritten
  rcases exists_split held with ⟨before, old, after, same, split⟩
  have written := map.replace_at same split
  apply Overwritten.mk ⟨before, old, after, same, split, written⟩
  intro wanted
  have first := map.first_at split
  rw [same] at first
  unfold lookup
  dsimp only
  rw [written]
  by_cases equal : wanted = key record
  · rw [if_pos equal, equal]
    apply first.find_written
    simp
  · have other : ¬ key record = wanted := fun found => equal found.symm
    rw [if_neg equal]
    apply first.find_other
    · simp [same, other]
    · simp [other]

theorem overwrite_length {map next : BoundedMap key capacity} {record : Record}
    (overwritten : map.overwrite record = some next) :
    map.records.length = next.records.length := by
  rcases (overwrite_eq_some overwritten).split with ⟨before, old, after, _, whole, written⟩
  rw [whole, written, List.length_append, List.length_append, List.length_cons, List.length_cons]

theorem overwrite_eq_none_iff {map : BoundedMap key capacity} {record : Record} :
    map.overwrite record = none ↔ map.lookup (key record) = none := by
  rw [lookup_eq_none_iff]
  unfold overwrite
  split_ifs with held
  · simp [held]
  · simp [held]

/-! ## The stored form -/

variable {image : Record → Cell} {blank : Cell}

def store (image : Record → Cell) (blank : Cell) (map : BoundedMap key capacity) :
    List.Vector Cell capacity :=
  ⟨map.records.map image ++ List.replicate (capacity - map.records.length) blank, by
    rw [List.length_append, List.length_map, List.length_replicate]
    exact Nat.add_sub_cancel' map.bounded⟩

omit [DecidableEq Key] in
theorem live_store (map : BoundedMap key capacity) :
    live (map.store image blank) map.records.length = map.records.map image := by
  apply List.take_left'
  rw [List.length_map]

omit [DecidableEq Key] in
theorem blank_store (map : BoundedMap key capacity) :
    Blank blank (map.store image blank) map.records.length := by
  intro cell member
  have rest : (map.store image blank).toList.drop map.records.length =
      List.replicate (capacity - map.records.length) blank := by
    apply List.drop_left'
    rw [List.length_map]
  rw [rest] at member
  exact List.eq_of_mem_replicate member

omit [DecidableEq Key] in
theorem store_determined (map : BoundedMap key capacity) {cells : List.Vector Cell capacity}
    (filled : live cells map.records.length = map.records.map image)
    (blanks : Blank blank cells map.records.length) : cells = map.store image blank :=
  blanks.determined map.blank_store (filled.trans map.live_store.symm)

omit [DecidableEq Key] in
theorem store_empty :
    (empty : BoundedMap key capacity).store image blank = List.Vector.replicate capacity blank := by
  symm
  apply store_determined
  · simp [live, empty]
  · exact blank_replicate blank

omit [DecidableEq Key] in
theorem store_set_blank (map : BoundedMap key capacity) (room : map.records.length < capacity) :
    (map.store image blank).set ⟨map.records.length, room⟩ blank = map.store image blank := by
  apply store_determined
  · rw [live_set_unused, live_store]
  · exact map.blank_store.set_unused room

theorem store_insert {map next : BoundedMap key capacity} {record : Record}
    (inserted : map.insert record = some next) (room : map.records.length < capacity) :
    (map.store image blank).set ⟨map.records.length, room⟩ (image record) =
        next.store image blank ∧
      map.records.length + 1 = next.records.length := by
  have records := (insert_eq_some inserted).records
  have size : map.records.length + 1 = next.records.length := by
    rw [records, List.length_append, List.length_singleton]
  apply And.intro _ size
  apply store_determined
  · rw [← size, live_append, live_store, records, List.map_append, List.map_singleton]
  · rw [← size]
    exact map.blank_store.append room (image record)

/-- A cell search that finds a record by its key. -/
def Finds (image : Record → Cell) (matching : Cell → Bool) (map : BoundedMap key capacity)
    (wanted : Key) : Prop :=
  ∀ record ∈ map.records, matching (image record) = decide (key record = wanted)

theorem find_store {map : BoundedMap key capacity} {matching : Cell → Bool} {wanted : Key}
    (finds : map.Finds image matching wanted) :
    (live (map.store image blank) map.records.length).find? matching =
      (map.lookup wanted).map image := by
  rw [live_store, List.find?_map]
  congr 1
  unfold lookup
  apply List.find?_congr
  exact finds

theorem Finds.none_matches {map : BoundedMap key capacity} {matching : Cell → Bool} {wanted : Key}
    (finds : map.Finds image matching wanted) :
    (∀ cell ∈ map.records.map image, matching cell = false) ↔ map.lookup wanted = none := by
  rw [lookup_eq_none_iff, List.forall_mem_map]
  constructor
  · intro none held
    rcases List.mem_map.mp held with ⟨record, member, same⟩
    have found := none record member
    rw [finds record member] at found
    exact absurd same (of_decide_eq_false found)
  · intro absent record member
    rw [finds record member]
    apply decide_eq_false
    intro same
    apply absent
    rw [← same]
    exact List.mem_map_of_mem member

theorem Finds.split {map : BoundedMap key capacity} {matching : Cell → Bool} {wanted : Key}
    (finds : map.Finds image matching wanted) {before after : List Cell} {cell : Cell}
    (first : FirstAt matching (map.records.map image) before cell after) :
    ∃ earlier record later, map.records = earlier ++ record :: later ∧ key record = wanted ∧
      before = earlier.map image ∧ cell = image record ∧ after = later.map image := by
  rcases List.map_eq_append_iff.mp first.split with ⟨earlier, rest, split, isBefore, tail⟩
  rcases List.map_eq_cons_iff.mp tail with ⟨record, later, isRest, isCell, isAfter⟩
  rw [isRest] at split
  have member : record ∈ map.records := by
    rw [split]
    simp
  have found := first.found
  rw [← isCell, finds record member] at found
  exact ⟨earlier, record, later, split, of_decide_eq_true found, isBefore.symm, isCell.symm,
    isAfter.symm⟩

theorem erase_at {map : BoundedMap key capacity} {before after : List Record} {record : Record}
    (split : map.records = before ++ record :: after) :
    ∃ next, map.erase (key record) = some next ∧ next.records = before ++ after := by
  have held : key record ∈ map.records.map key := by
    rw [split]
    simp
  unfold erase
  rw [if_pos held]
  exact ⟨_, rfl, map.filter_others split⟩

theorem overwrite_at {map : BoundedMap key capacity} {before after : List Record}
    {old record : Record} (same : key old = key record)
    (split : map.records = before ++ old :: after) :
    ∃ next, map.overwrite record = some next ∧ next.records = before ++ record :: after := by
  have held : key record ∈ map.records.map key := by
    rw [split, ← same]
    simp
  unfold overwrite
  rw [if_pos held]
  exact ⟨_, rfl, map.replace_at same split⟩

theorem store_erase {map : BoundedMap key capacity} {matching : Cell → Bool} {wanted : Key}
    {copy : Cell → Cell} (finds : map.Finds image matching wanted)
    (copies : ∀ record ∈ map.records, copy (image record) = image record) :
    removeFirst matching copy blank (map.store image blank) map.records.length =
      (map.erase wanted).map (store image blank) := by
  cases taken : removeFirst matching copy blank (map.store image blank) map.records.length with
  | none =>
      have none := remove_first_none_iff.mp taken
      rw [live_store] at none
      rw [erase_eq_none_iff.mpr (finds.none_matches.mp none), Option.map_none]
  | some cells =>
      rcases remove_first_some map.bounded taken with ⟨before, cell, after, first, kept, rest⟩
      rw [live_store] at first
      rcases finds.split first with ⟨earlier, record, later, split, same, rfl, rfl, rfl⟩
      rcases erase_at split with ⟨next, erased, records⟩
      have copied : (later.map image).map copy = later.map image := by
        rw [List.map_map]
        apply List.map_congr_left
        intro other member
        apply copies
        rw [split]
        simp [member]
      have size := erase_length erased
      rw [copied, size, ← List.map_append, ← records] at kept
      rw [size] at rest
      rw [← same, erased, Option.map_some]
      apply congrArg some
      apply next.store_determined kept
      intro value member
      rw [rest, List.mem_cons] at member
      rcases member with isBlank | behind
      · exact isBlank
      · exact map.blank_store value behind

/-- Rewriting the first match to the image of a record with its key overwrites. -/
theorem store_overwrite {map : BoundedMap key capacity} {matching : Cell → Bool} {record : Record}
    {change : Cell → Cell} (finds : map.Finds image matching (key record))
    (writes : ∀ old ∈ map.records, key old = key record → change (image old) = image record) :
    modifyFirst matching change (map.store image blank) map.records.length =
      (map.overwrite record).map (store image blank) := by
  cases modified : modifyFirst matching change (map.store image blank) map.records.length with
  | none =>
      have none := modify_first_none_iff.mp modified
      rw [live_store] at none
      rw [overwrite_eq_none_iff.mpr (finds.none_matches.mp none), Option.map_none]
  | some cells =>
      rcases modify_first_some modified with ⟨before, cell, after, first, written, rest⟩
      rw [live_store] at first
      rcases finds.split first with ⟨earlier, old, later, split, same, rfl, rfl, rfl⟩
      rcases overwrite_at same split with ⟨next, overwritten, records⟩
      have size := overwrite_length overwritten
      have new : change (image old) = image record := by
        apply writes old _ same
        rw [split]
        simp
      rw [new, size, ← List.map_cons, ← List.map_append, ← records] at written
      rw [overwritten, Option.map_some]
      apply congrArg some
      apply next.store_determined written
      intro value member
      rw [← size, rest] at member
      exact map.blank_store value member

/-! ## Clean tables -/

omit [DecidableEq Key] in
/-- When the images are the valid cells and apart as their keys are, the clean tables are
the stored maps. -/
theorem clean_iff_stored {Valid : Cell → Prop} {Apart : Cell → Cell → Prop}
    (valid : ∀ cell, Valid cell ↔ cell ∈ Set.range image)
    (apart : ∀ first second, Apart (image first) (image second) ↔ key first ≠ key second)
    {cells : List.Vector Cell capacity} {count : Nat} :
    KeyedTable.Clean Valid Apart blank cells count ↔
      ∃ map : BoundedMap key capacity, map.store image blank = cells ∧
        map.records.length = count := by
  constructor
  · intro clean
    have images : live cells count ∈ Set.range (List.map image) := by
      rw [Set.range_list_map]
      intro cell held
      exact (valid cell).mp (clean.valid cell held)
    rcases images with ⟨records, isLive⟩
    have size : records.length = count := by
      rw [← live_length cells clean.bounded, ← isLive, List.length_map]
    have distinct : (records.map key).Nodup := by
      have allApart := clean.apart
      rw [← isLive, List.pairwise_map] at allApart
      rw [List.Nodup, List.pairwise_map]
      exact allApart.imp fun {first second} => (apart first second).mp
    let map : BoundedMap key capacity := ⟨records, distinct, size.trans_le clean.bounded⟩
    refine ⟨map, ?_, size⟩
    symm
    apply map.store_determined
    · rw [size]
      exact isLive.symm
    · rw [size]
      exact clean.blanks
  · rintro ⟨map, rfl, rfl⟩
    apply KeyedTable.Clean.mk map.bounded _ _ map.blank_store
    · intro cell held
      rw [live_store] at held
      rcases List.mem_map.mp held with ⟨record, _, rfl⟩
      exact (valid _).mpr ⟨record, rfl⟩
    · rw [live_store, List.pairwise_map]
      have distinct := map.distinct
      rw [List.Nodup, List.pairwise_map] at distinct
      exact distinct.imp fun {first second} => (apart first second).mpr

end BoundedMap
