import BlindNet.QuarantineTtl
import BlindNet.Lib.Machine

/-!
# Expired quarantines

The quarantine manager frees entries that have expired when it is told to, and also when a
check finds one. A run with sweeps is compared with the same run without them: an entry
that stays although it has expired is dropped by the next check of its subject, or renewed
as if it were new.
-/

namespace BlindNet

set_option autoImplicit false

open ByteLayout SlotTable

def QuarantineCall.isSweep (call : QuarantineCall) : Bool := call.sweep.isSome

def QuarantineCall.isUse : QuarantineCall → Bool
  | .add _ _ _ _ _ _ _ => true
  | .remove _ => true
  | .check _ _ => true
  | _ => false

def QuarantineCheckResult.withoutHits (result : QuarantineCheckResult) : QuarantineCheckResult :=
  { result with hitCount := 0 }

/-- What an entry says about its subject, apart from its use so far. -/
def QuarantineEntry.terms (entry : QuarantineEntry) :
    QuarantineMode × QuarantineSource × UInt32 × UInt8 × ByteArr 48 :=
  (entry.mode, entry.source, entry.expiresAtMs, entry.riskScore, entry.reason)

namespace QuarantineManager

def hasRoom (manager : QuarantineManager) : Bool := (findEmpty manager.slots.slots).isSome

def checkStep (manager : QuarantineManager) (call : QuarantineCall) :
    QuarantineManager × List (Option QuarantineCheckResult) :=
  (manager.call call,
    match call with
    | .check ts subject =>
        [(manager.check ts subject).1.map QuarantineCheckResult.withoutHits]
    | _ => [])

theorem claim_of_room {manager : QuarantineManager} (room : manager.hasRoom = true) :
    ∃ index, claim manager.config.evictLruWhenFull lastUse manager.slots.slots =
      some (index, false) := by
  obtain ⟨index, free⟩ := Option.isSome_iff_exists.mp room
  exact ⟨index, by simp [claim, free]⟩

theorem evicted_of_room {manager : QuarantineManager} (room : manager.hasRoom = true)
    (subject : QuarantineSubject) : manager.evicted subject = none := by
  obtain ⟨index, free⟩ := claim_of_room room
  unfold evicted
  rw [free]
  cases manager.lookup subject <;> rfl

theorem add_with_room {manager : QuarantineManager} (ready : manager.initialized = true)
    (room : manager.hasRoom = true) {subject : QuarantineSubject}
    (valid : subjectIsValid subject = true) (ts : UInt32) (mode : QuarantineMode)
    (source : QuarantineSource) (ttlMs : UInt32) (riskScore : UInt8) (reason : Bytes) :
    let next := (manager.add ts subject mode source ttlMs riskScore reason).2
    next.initialized = true ∧ next.config = manager.config ∧
      ∀ key, next.lookup key =
        if subject = key then
          some (addEntry ts valid mode source (ts + effectiveTtl manager ttlMs)
            (min riskScore 100) reason (manager.lookup key))
        else manager.lookup key := by
  cases add_spec ts valid mode source riskScore reason ready ttlMs with
  | inl refused =>
      obtain ⟨index, free⟩ := claim_of_room room
      rw [refused.2.2.1] at free
      cases free
  | inr granted =>
      obtain ⟨_, running, config, changed⟩ := granted
      refine ⟨running, config, ?_⟩
      intro key
      rw [changed, evicted_of_room room, if_neg (Option.some_ne_none key).symm]

theorem entry_expired_later {entry : QuarantineEntry} {ts later : UInt32} (order : ts ≤ later)
    (expired : entryIsExpired entry ts = true) : entryIsExpired entry later = true := by
  unfold entryIsExpired at expired ⊢
  simp only [Bool.and_eq_true, decide_eq_true_eq] at expired ⊢
  exact ⟨expired.1, UInt32.le_trans expired.2 order⟩

theorem expired_of_terms {entry other : QuarantineEntry} (same : entry.terms = other.terms)
    (ts : UInt32) : entryIsExpired entry ts = entryIsExpired other ts := by
  simp only [QuarantineEntry.terms, Prod.mk.injEq] at same
  unfold entryIsExpired
  rw [same.2.2.1]

theorem result_of_terms {entry other : QuarantineEntry} (same : entry.terms = other.terms)
    (ts : UInt32) :
    (fillCheckResult entry ts).withoutHits = (fillCheckResult other ts).withoutHits := by
  simp only [QuarantineEntry.terms, Prod.mk.injEq] at same
  obtain ⟨mode, source, expires, risk, reason⟩ := same
  unfold fillCheckResult QuarantineCheckResult.withoutHits
  rw [mode, source, expires, risk, reason]

/-- The entry of a subject in a run with sweeps and in the plain run: alike, or swept there
and expired here for all calls to come. -/
inductive Weeded (readings : List UInt32) :
    Option QuarantineEntry → Option QuarantineEntry → Prop
  | absent : Weeded readings none none
  | alike (entry other : QuarantineEntry) (same : entry.terms = other.terms) :
      Weeded readings (some entry) (some other)
  | swept (other : QuarantineEntry)
      (expired : ∀ ts ∈ readings, entryIsExpired other ts = true) :
      Weeded readings none (some other)

theorem Weeded.mono {readings later : List UInt32} {entry other : Option QuarantineEntry}
    (weeded : Weeded readings entry other) (fewer : later ⊆ readings) :
    Weeded later entry other := by
  cases weeded with
  | absent => exact .absent
  | alike entry other same => exact .alike entry other same
  | swept other expired => exact .swept other fun ts member => expired ts (fewer member)

theorem Weeded.sweep {ts : UInt32} {readings : List UInt32}
    {entry other : Option QuarantineEntry} (weeded : Weeded readings entry other)
    (later : ∀ now ∈ readings, ts ≤ now) :
    Weeded readings (entry.filter fun held => !entryIsExpired held ts) other := by
  cases weeded with
  | absent => exact .absent
  | swept other expired => exact .swept other expired
  | alike entry other same =>
      rw [Option.filter_some]
      cases expired : entryIsExpired entry ts with
      | false => exact .alike entry other same
      | true =>
          apply Weeded.swept
          intro now member
          exact entry_expired_later (later now member) (expired_of_terms same ts ▸ expired)

theorem Weeded.check {ts : UInt32} {readings : List UInt32}
    {entry other : Option QuarantineEntry} (weeded : Weeded (ts :: readings) entry other) :
    Weeded readings (checkEntry ts entry) (checkEntry ts other) ∧
      ((checkEntry ts entry).map fun held => fillCheckResult held ts).map
          QuarantineCheckResult.withoutHits =
        ((checkEntry ts other).map fun held => fillCheckResult held ts).map
          QuarantineCheckResult.withoutHits := by
  unfold checkEntry
  cases weeded with
  | absent => exact ⟨.absent, rfl⟩
  | swept other expired =>
      rw [Option.filter_some, expired ts List.mem_cons_self]
      exact ⟨.absent, rfl⟩
  | alike entry other same =>
      rw [Option.filter_some, Option.filter_some, expired_of_terms same]
      cases entryIsExpired other ts with
      | true => exact ⟨.absent, rfl⟩
      | false =>
          have sameHit : (hit ts entry).terms = (hit ts other).terms := same
          exact ⟨.alike _ _ sameHit, congrArg some (result_of_terms sameHit ts)⟩

theorem add_entry_terms (ts : UInt32) {subject : QuarantineSubject}
    (valid : subjectIsValid subject = true) (mode : QuarantineMode) (source : QuarantineSource)
    (expiresAtMs : UInt32) (riskScore : UInt8) (reason : Bytes) (old : Option QuarantineEntry) :
    (addEntry ts valid mode source expiresAtMs riskScore reason old).terms =
      (mode, source, expiresAtMs, riskScore, strncpyCleared 48 reason) := by
  cases old with
  | none => rfl
  | some entry => rfl

/-- The state of a run with sweeps beside that of the plain run. -/
structure Swept (rest : List QuarantineCall) (manager plain : QuarantineManager) : Prop where
  ready : manager.initialized = true
  plainReady : plain.initialized = true
  config : manager.config = plain.config
  ordered : (rest.filterMap QuarantineCall.reading).Pairwise (· ≤ ·)
  calls : ∀ call ∈ rest, call.isUse = true ∨ call.isSweep = true
  room : EventMachine.Guarded checkStep (fun manager _ => manager.hasRoom = true) plain
    (rest.filter fun call => !call.isSweep)
  entries : ∀ subject, Weeded (rest.filterMap QuarantineCall.reading)
    (manager.lookup subject) (plain.lookup subject)

theorem Swept.has_room {rest : List QuarantineCall} {manager plain : QuarantineManager}
    (swept : Swept rest manager plain) (room : plain.hasRoom = true) : manager.hasRoom = true := by
  obtain ⟨index, free⟩ := Option.isSome_iff_exists.mp room
  have fewer : ∀ subject, plain.slots.lookup subject = none →
      manager.slots.lookup subject = none := by
    intro subject missing
    have weeded := swept.entries subject
    rw [show plain.lookup subject = none from missing] at weeded
    generalize here : manager.lookup subject = entry at weeded
    cases weeded
    exact here
  exact Option.isSome_iff_exists.mpr (Keyed.room_of_fewer fewer free)

theorem Swept.swept {ts : UInt32} {rest : List QuarantineCall} {manager plain : QuarantineManager}
    (swept : Swept (.expireOld ts :: rest) manager plain) :
    Swept rest (manager.expireOld ts).2 plain := by
  obtain ⟨ready, plainReady, config, ordered, calls, room, entries⟩ := swept
  obtain ⟨later, orderedRest⟩ := List.pairwise_cons.mp ordered
  obtain ⟨running, sameConfig, changed⟩ := expire_old_spec ready ts
  refine ⟨running, plainReady, sameConfig.trans config, orderedRest,
    fun call member => calls call (List.mem_cons_of_mem _ member), room, ?_⟩
  intro subject
  rw [changed]
  exact ((entries subject).mono (List.subset_cons_self _ _)).sweep later

/-- A call about one subject, seen from both runs: the entry of the subject changes in the
same way, and no other one does. -/
theorem Swept.used {call : QuarantineCall} {rest : List QuarantineCall}
    {manager plain : QuarantineManager} (swept : Swept (call :: rest) manager plain)
    (isUse : call.isUse = true) :
    (manager.checkStep call).2 = (plain.checkStep call).2 ∧
      Swept rest (manager.checkStep call).1 (plain.checkStep call).1 := by
  have notSweep : call.isSweep = false := by
    cases call with
    | expireOld ts => cases isUse
    | _ => rfl
  have roomHere := swept.has_room
  obtain ⟨ready, plainReady, config, ordered, calls, room, entries⟩ := swept
  rw [List.filter_cons_of_pos (by simp [notSweep])] at room
  have manages := roomHere room.1
  have callsRest := fun other member => calls other (List.mem_cons_of_mem call member)
  cases call with
  | init config => cases isUse
  | reset => cases isUse
  | expireOld ts => cases isUse
  | remove subject =>
      obtain ⟨running, sameConfig, changed⟩ := remove_spec ready subject
      obtain ⟨plainRunning, plainConfig, plainChanged⟩ := remove_spec plainReady subject
      refine ⟨rfl, running, plainRunning, sameConfig.trans (config.trans plainConfig.symm),
        ordered, callsRest, room.2, ?_⟩
      intro key
      change Weeded _ ((manager.remove subject).2.lookup key) ((plain.remove subject).2.lookup key)
      rw [changed, plainChanged]
      split_ifs
      · exact .absent
      · exact entries key
  | check ts subject =>
      obtain ⟨answer, running, sameConfig, changed⟩ := check_spec ready ts subject
      obtain ⟨plainAnswer, plainRunning, plainConfig, plainChanged⟩ :=
        check_spec plainReady ts subject
      have checked := (entries subject).check
      constructor
      · simp only [checkStep]
        rw [answer, plainAnswer, checked.2]
      · refine ⟨running, plainRunning, sameConfig.trans (config.trans plainConfig.symm),
          (List.pairwise_cons.mp ordered).2, callsRest, room.2, ?_⟩
        intro key
        change Weeded _ ((manager.check ts subject).2.lookup key)
          ((plain.check ts subject).2.lookup key)
        rw [changed, plainChanged]
        split_ifs with isKey
        · subst isKey
          exact checked.1
        · exact (entries key).mono (List.subset_cons_self _ _)
  | add ts subject mode source ttlMs riskScore reason =>
      apply And.intro rfl
      have orderedRest := (List.pairwise_cons.mp ordered).2
      have entriesRest := fun key => (entries key).mono (List.subset_cons_self _ _)
      simp only [checkStep, QuarantineManager.call]
      cases valid : subjectIsValid subject with
      | false =>
          rw [add_invalid valid, add_invalid valid]
          exact ⟨ready, plainReady, config, orderedRest, callsRest,
            by simpa [checkStep, QuarantineManager.call, add_invalid valid] using room.2,
            entriesRest⟩
      | true =>
          obtain ⟨running, sameConfig, changed⟩ :=
            add_with_room ready manages valid ts mode source ttlMs riskScore reason
          obtain ⟨plainRunning, plainConfig, plainChanged⟩ :=
            add_with_room plainReady room.1 valid ts mode source ttlMs riskScore reason
          have sameTtl : effectiveTtl manager ttlMs = effectiveTtl plain ttlMs := by
            unfold effectiveTtl
            rw [config]
          refine ⟨running, plainRunning, sameConfig.trans (config.trans plainConfig.symm),
            orderedRest, callsRest, room.2, ?_⟩
          intro key
          rw [changed, plainChanged]
          split_ifs
          · apply Weeded.alike
            rw [add_entry_terms, add_entry_terms, sameTtl]
          · exact entriesRest key

def offAnswer : QuarantineCall → List (Option QuarantineCheckResult)
  | .check _ _ => [none]
  | _ => []

theorem off_step (manager : QuarantineManager) (call : QuarantineCall)
    (off : manager.initialized = false) (kind : call.isUse = true ∨ call.isSweep = true) :
    (manager.checkStep call).1.initialized = false ∧
      (manager.checkStep call).2 = offAnswer call := by
  cases call with
  | init config => simp [QuarantineCall.isUse, QuarantineCall.isSweep, QuarantineCall.sweep] at kind
  | reset => simp [QuarantineCall.isUse, QuarantineCall.isSweep, QuarantineCall.sweep] at kind
  | add ts subject mode source ttlMs riskScore reason =>
      simp [checkStep, QuarantineManager.call, add, off, invalid, offAnswer]
  | remove subject => simp [checkStep, QuarantineManager.call, remove, off, offAnswer]
  | check ts subject => simp [checkStep, QuarantineManager.call, check, off, invalid, offAnswer]
  | expireOld ts => simp [checkStep, QuarantineManager.call, expireOld, off, offAnswer]

/-- Additions, removals, checks and sweeps in the order of their 32-bit times. Without the
sweeps the table never fills. -/
structure UseRun (manager : QuarantineManager) (calls : List QuarantineCall) : Prop where
  kinds : ∀ call ∈ calls, call.isUse = true ∨ call.isSweep = true
  ordered : (calls.filterMap QuarantineCall.reading).Pairwise (· ≤ ·)
  room : EventMachine.Guarded checkStep (fun manager _ => manager.hasRoom = true) manager
    (calls.filter fun call => !call.isSweep)

/-- Sweeps change no check result other than in its number of hits. -/
theorem sweep_invisible (manager : QuarantineManager) (calls : List QuarantineCall)
    (run : manager.UseRun calls) :
    (EventMachine.run checkStep manager calls).2 =
      (EventMachine.run checkStep manager (calls.filter fun call => !call.isSweep)).2 := by
  cases ready : manager.initialized with
  | true =>
      apply EventMachine.run_skipping checkStep QuarantineCall.isSweep Swept
      · intro call rest state plain isSweep swept
        cases call with
        | expireOld ts => exact ⟨rfl, swept.swept⟩
        | _ => cases isSweep
      · intro call rest state plain notSweep swept
        have kind := swept.calls call List.mem_cons_self
        rw [notSweep] at kind
        exact swept.used (kind.resolve_right Bool.false_ne_true)
      · refine ⟨ready, ready, rfl, run.ordered, run.kinds, run.room, ?_⟩
        intro subject
        cases manager.lookup subject with
        | none => exact .absent
        | some entry => exact .alike entry entry rfl
  | false =>
      apply EventMachine.run_skipping_rest checkStep QuarantineCall.isSweep _ _ offAnswer off_step
        _ calls manager ready run.kinds
      intro call isSweep
      cases call with
      | expireOld ts => rfl
      | _ => cases isSweep

end QuarantineManager

end BlindNet
