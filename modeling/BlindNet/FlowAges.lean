import BlindNet.FlowMap
import BlindNet.Lib.LeastRecent

/-!
# The ages of flows

In a run of the flow table each entry carries the time of the last touch of its flow, cut
to 32 bits. A full table that has to make room goes by these times.
-/

namespace BlindNet

set_option autoImplicit false

open SlotTable

def FlowCall.touched : FlowCall → Option FlowKey
  | .touch _ key _ _ => some key
  | _ => none

/-- A call of an initialised table that reads the clock at an uptime. -/
def FlowCall.Clocked (uptime : Nat) : FlowCall → Prop
  | .init _ => False
  | .touch ts _ _ _ => ts = nowMs32 uptime
  | .expireOld ts => ts = nowMs32 uptime
  | _ => True

namespace FlowTable

def runs (table : FlowTable) (calls : List (Nat × FlowCall)) : FlowTable :=
  calls.foldl (fun table timed => table.call timed.2) table

/-- The touch of a new flow gets a slot, and the flow that loses it was seen least recently. -/
def EvictsLeastRecent (table : FlowTable) (calls : List (Nat × FlowCall)) (uptime : Nat)
    (key : FlowKey) (direction : FlowDirection) (bytes : UInt32) : Prop :=
  let outcome := table.touch (nowMs32 uptime) key direction bytes
  outcome.1 = .evictedOldEntry ∧ (outcome.2.lookup key).isSome = true ∧
    ∃ victim, LeastRecent FlowCall.touched calls table.slots victim ∧
      ∀ other, other ≠ key →
        outcome.2.lookup other = if victim = other then none else table.lookup other

structure Seen (config : FlowTableConfig) (table : FlowTable) (calls : List (Nat × FlowCall)) :
    Prop where
  ready : table.initialized = true
  config : table.config = config
  aged : Aged FlowEntry.lastSeenMs FlowCall.touched table.slots calls

variable {config : FlowTableConfig} {table : FlowTable} {calls : List (Nat × FlowCall)}

theorem Seen.untouched (seen : Seen config table calls) {timed : Nat × FlowCall}
    {next : FlowTable} (ready : next.initialized = true) (same : next.config = table.config)
    (none_ : timed.2.touched = none)
    (kept : ∀ key entry, next.lookup key = some entry →
      ∃ old, table.lookup key = some old ∧ old.lastSeenMs = entry.lastSeenMs) :
    Seen config next (calls ++ [timed]) := by
  refine ⟨ready, same.trans seen.config, seen.aged.step ?_ ?_⟩
  · intro key entry touched
    rw [none_] at touched
    cases touched
  · intro key entry _ held
    exact kept key entry held

theorem seen_of_map {next : FlowTable}
    (same : ∀ key, (next.lookup key).map FlowEntry.lastSeenMs =
      (table.lookup key).map FlowEntry.lastSeenMs) (key : FlowKey) (entry : FlowEntry)
    (held : next.lookup key = some entry) :
    ∃ old, table.lookup key = some old ∧ old.lastSeenMs = entry.lastSeenMs := by
  have mapped := same key
  rw [held, Option.map_some] at mapped
  exact Option.map_eq_some_iff.mp mapped.symm

theorem Seen.touch (seen : Seen config table calls) (uptime : Nat) (key : FlowKey)
    (direction : FlowDirection) (bytes : UInt32) :
    Seen config (table.touch (nowMs32 uptime) key direction bytes).2
      (calls ++ [(uptime, .touch (nowMs32 uptime) key direction bytes)]) := by
  obtain ⟨outcome, ready, same⟩ := touch_cases seen.ready (nowMs32 uptime) key direction bytes
  refine ⟨ready, same.trans seen.config, ?_⟩
  generalize table.touch (nowMs32 uptime) key direction bytes = touched at outcome
  -- the touched flow has the new time, and every other one is as it was or gone
  cases outcome with
  | updated entry renewed next known isSeen changed =>
      exact seen.aged.written rfl isSeen changed fun _ _ held => held
  | created index entry next unknown free isSeen changed =>
      exact seen.aged.written rfl isSeen changed fun _ _ held => held
  | evicted index entry old next unknown crowded heldOld isSeen changed =>
      apply seen.aged.written rfl isSeen changed
      intro other held kept
      split_ifs at kept
      exact kept
  | dropped next unknown full unchanged =>
      apply seen.aged.touch rfl
      · intro held isHeld
        have absent := (unchanged key).symm.trans isHeld
        rw [unknown] at absent
        cases absent
      · intro other held _ isHeld
        exact (unchanged other).symm.trans isHeld

theorem Seen.set (seen : Seen config table calls) {timed : Nat × FlowCall} (key : FlowKey)
    (change : FlowEntry → FlowEntry) (keeps : ∀ entry, (change entry).key = entry.key)
    (keepsSeen : ∀ entry, (change entry).lastSeenMs = entry.lastSeenMs)
    (none_ : timed.2.touched = none) :
    Seen config (table.setEntry key change keeps).2 (calls ++ [timed]) := by
  obtain ⟨ready, same, kept⟩ := table.set_entry_seen key change keeps keepsSeen
  exact seen.untouched (ready.trans seen.ready) same none_ (seen_of_map kept)

theorem Seen.call (seen : Seen config table calls) {timed : Nat × FlowCall}
    (clocked : timed.2.Clocked timed.1) :
    Seen config (table.call timed.2) (calls ++ [timed]) := by
  obtain ⟨uptime, call⟩ := timed
  cases call with
  | init config => cases clocked
  | reset =>
      apply @Seen.untouched config table calls seen (uptime, .reset) table.reset seen.ready rfl rfl
      intro key entry held
      change (Keyed.empty : Keyed FlowEntry FlowEntry.key _).lookup key = some entry at held
      rw [Keyed.lookup_empty] at held
      cases held
  | touch ts key direction bytes =>
      have isTime : ts = nowMs32 uptime := clocked
      rw [isTime]
      exact seen.touch uptime key direction bytes
  | setState key state => exact seen.set key _ _ (fun _ => rfl) rfl
  | setRisk key riskScore => exact seen.set key _ _ (fun _ => rfl) rfl
  | setPolicyAction key action => exact seen.set key _ _ (fun _ => rfl) rfl
  | expireOld ts =>
      obtain ⟨ready, same, kept⟩ := expire_old_spec seen.ready ts
      apply seen.untouched ready same rfl
      intro key entry held
      change (table.expireOld ts).2.lookup key = some entry at held
      rw [kept] at held
      exact ⟨entry, (Option.filter_eq_some_iff.mp held).1, rfl⟩

theorem seen_run (config : Option FlowTableConfig) (calls : List (Nat × FlowCall))
    (clocked : ∀ timed ∈ calls, timed.2.Clocked timed.1) :
    Seen (boot.init config).config ((boot.init config).runs calls) calls := by
  apply fold_history (Seen (boot.init config).config) (fun timed => timed.2.Clocked timed.1) _ _
    clocked
  · intro state history timed allowed seen
    exact seen.call allowed
  · exact ⟨rfl, rfl, aged_empty⟩

theorem Seen.evicts_least_recent (seen : Seen config table calls)
    (evicts : config.evictLruWhenFull = true) {key : FlowKey} (unknown : table.lookup key = none)
    (full : findEmpty table.slots.slots = none)
    (kept : OrderKept FlowCall.touched calls table.slots) (uptime : Nat)
    (direction : FlowDirection) (bytes : UInt32) :
    table.EvictsLeastRecent calls uptime key direction bytes := by
  obtain ⟨index, victim, claimed, held, least⟩ := seen.aged.claim_least_recent full kept
  have claimed : claim table.config.evictLruWhenFull FlowEntry.lastSeenMs table.slots.slots =
      some (index, true) := by
    rw [seen.config, evicts]
    exact claimed
  have outcome := (touch_cases seen.ready (nowMs32 uptime) key direction bytes).1
  unfold EvictsLeastRecent
  generalize table.touch (nowMs32 uptime) key direction bytes = touched at outcome ⊢
  cases outcome with
  | updated entry renewed next known isSeen changed =>
      rw [unknown] at known
      cases known
  | created slot entry next _ free isSeen changed =>
      rw [claimed] at free
      cases free
  | dropped next _ none_ unchanged =>
      rw [claimed] at none_
      cases none_
  | evicted slot entry old next _ crowded heldOld isSeen changed =>
      rw [claimed] at crowded
      cases crowded
      rw [held] at heldOld
      cases heldOld
      refine ⟨rfl, by rw [changed, if_pos rfl]; rfl, victim.key, least, ?_⟩
      intro other different
      rw [changed, if_neg (Ne.symm different)]

end FlowTable

end BlindNet
