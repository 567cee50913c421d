import BlindNet.Stomach
import BlindNet.Lib.Machine

/-!
# The capsule cache over its calls

The cache answers whether a digest is among the last sixteen that it did not
know. A digest it knows is not entered again, so its entries stay distinct.
-/

namespace BlindNet

set_option autoImplicit false

open ByteLayout RecencyRing

inductive CpCacheCall where
  | clear
  | seenOrAdd (digest : ByteArr 32)

inductive CpCacheAnswer where
  | cleared
  | answered (digest : ByteArr 32) (seen : Bool)

def stomachCpCacheClear : StomachCpCache := Stomach.new.cpCache

def stomachCpCacheSeenOrAdd (cache : StomachCpCache) (digest : ByteArr 32) :
    Bool × StomachCpCache :=
  cache.seenOrAdd digest

def cpCacheStep (cache : StomachCpCache) : CpCacheCall → StomachCpCache × List CpCacheAnswer
  | .clear => (stomachCpCacheClear, [.cleared])
  | .seenOrAdd digest =>
      let answer := stomachCpCacheSeenOrAdd cache digest
      (answer.2, [.answered digest answer.1])

/-- The digests that were answered with false since the last clear, newest first. -/
def missesSinceClear (answers : List CpCacheAnswer) : List (ByteArr 32) :=
  answers.foldl
    (fun misses answer =>
      match answer with
      | .cleared => []
      | .answered digest seen => if seen then misses else digest :: misses)
    []

theorem misses_append (answers : List CpCacheAnswer) (answer : CpCacheAnswer) :
    missesSinceClear (answers ++ [answer]) =
      match answer with
      | .cleared => []
      | .answered digest seen =>
          if seen then missesSinceClear answers else digest :: missesSinceClear answers := by
  rw [missesSinceClear, List.foldl_append]
  rfl

theorem cp_cache_remembers_step (cache : StomachCpCache) (answers : List CpCacheAnswer)
    (call : CpCacheCall) (remembers : cache.Remembers (missesSinceClear answers)) :
    (cpCacheStep cache call).1.Remembers
      (missesSinceClear (answers ++ (cpCacheStep cache call).2)) := by
  cases call with
  | clear =>
      simp only [cpCacheStep, misses_append]
      exact Ring.Remembers.empty _ _
  | seenOrAdd digest =>
      simp only [cpCacheStep, misses_append]
      exact (remembers.seen_or_add digest).2

theorem cp_cache_remembers (calls : List CpCacheCall) :
    (EventMachine.run cpCacheStep stomachCpCacheClear calls).1.Remembers
      (missesSinceClear (EventMachine.run cpCacheStep stomachCpCacheClear calls).2) := by
  have run := EventMachine.history_run cpCacheStep
    (fun cache answers => cache.Remembers (missesSinceClear answers)) cp_cache_remembers_step
    stomachCpCacheClear [] calls (Ring.Remembers.empty _ _)
  rwa [List.nil_append] at run

/-- After any calls: the next call for a digest answers true exactly when the
digest is among the last sixteen that were answered with false since the last
clear; the fill count and the write index stay in range; and the filled entries
are distinct. -/
theorem capsule_cache_semantics (calls : List CpCacheCall) (digest : ByteArr 32) :
    let ran := EventMachine.run cpCacheStep stomachCpCacheClear calls
    ((stomachCpCacheSeenOrAdd ran.1 digest).1 = true ↔
      digest ∈ (missesSinceClear ran.2).take 16) ∧
    ran.1.count ≤ 16 ∧ ran.1.next < 16 ∧ (ran.1.entries.toList.take ran.1.count).Nodup := by
  intro ran
  have remembers := cp_cache_remembers calls
  refine ⟨(remembers.seen_or_add digest).1, ran.1.count_le, ran.1.next_lt, ?_⟩
  exact ran.1.recent_perm.nodup_iff.mp remembers.once

/-- The pill's digest is what the Stomach asks for; without one it asks nothing. -/
theorem seen_or_add_cp_calls (crypto : Crypto) (stomach : Stomach) (pill : ActionPill) :
    (stomach.seenOrAddCp crypto pill).2.cpCache =
      (EventMachine.run cpCacheStep stomach.cpCache
        ((computeCapsuleDigest crypto pill).toOption.toList.map CpCacheCall.seenOrAdd)).1 := by
  unfold Stomach.seenOrAddCp
  cases computeCapsuleDigest crypto pill with
  | ok digest => rfl
  | error err => rfl

end BlindNet
