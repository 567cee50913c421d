import BlindNet.QuarantineMap

/-!
# How long a quarantine is reported

A quarantine ends at a 32-bit deadline that is compared with the 32-bit clock. Both wrap
around every 2^32 milliseconds, and the comparison does not know it: the deadline is read
truly only while neither or both of them have passed the wrap.
-/

namespace BlindNet

set_option autoImplicit false

open ByteLayout SlotTable

def QuarantineCall.reading : QuarantineCall → Option UInt32
  | .add ts _ _ _ _ _ _ => some ts
  | .check ts _ => some ts
  | .expireOld ts => some ts
  | .init _ => none
  | .reset => none
  | .remove _ => none

/-- The reading at which a call frees every expired entry. -/
def QuarantineCall.sweep : QuarantineCall → Option UInt32
  | .expireOld ts => some ts
  | _ => none

/-- Calls for the subject, and those that drop all entries. -/
def QuarantineCall.concerns (subject : QuarantineSubject) : QuarantineCall → Bool
  | .init _ => true
  | .reset => true
  | .add _ other _ _ _ _ _ => other == subject
  | .remove other => other == subject
  | .check _ other => other == subject
  | .expireOld _ => false

namespace QuarantineManager

/-- The call takes the slot of the subject for another one. -/
def Evicts (manager : QuarantineManager) (subject : QuarantineSubject) : QuarantineCall → Prop
  | .add _ other _ _ _ _ _ => manager.evicted other = some subject
  | _ => False

def runs (manager : QuarantineManager) (calls : List (Nat × QuarantineCall)) :
    QuarantineManager :=
  calls.foldl (fun manager timed => manager.call timed.2) manager

/-- Calls between two uptimes, none of which is for the subject or drops its entry other
than by expiry. -/
structure Undisturbed (manager : QuarantineManager) (subject : QuarantineSubject)
    (start finish : Nat) (between : List (Nat × QuarantineCall)) : Prop where
  within : ∀ timed ∈ between, start ≤ timed.1 ∧ timed.1 ≤ finish
  clocked : ∀ timed ∈ between, ∀ ts ∈ timed.2.reading, ts = nowMs32 timed.1
  others : ∀ timed ∈ between, timed.2.concerns subject = false
  kept : ∀ before timed after, between = before ++ timed :: after →
    ¬ (manager.runs before).Evicts subject timed.2

theorem filter_unswept (entry : Option QuarantineEntry) :
    (entry.filter fun held => (none : Option UInt32).all fun ts => !entryIsExpired held ts) =
      entry := by
  cases entry <;> rfl

theorem call_undisturbed {manager : QuarantineManager} (ready : manager.initialized = true)
    {subject : QuarantineSubject} {call : QuarantineCall} (other : call.concerns subject = false)
    (kept : ¬ manager.Evicts subject call) :
    (manager.call call).initialized = true ∧
      (manager.call call).lookup subject =
        (manager.lookup subject).filter fun entry =>
          call.sweep.all fun ts => !entryIsExpired entry ts := by
  cases call with
  | init config => cases other
  | reset => cases other
  | add ts named mode source ttlMs riskScore reason =>
      have different : named ≠ subject := by simpa [QuarantineCall.concerns] using other
      simp only [QuarantineManager.call, QuarantineCall.sweep, filter_unswept]
      cases valid : subjectIsValid named with
      | false =>
          rw [add_invalid valid]
          exact ⟨ready, rfl⟩
      | true =>
          rcases add_spec ts valid mode source riskScore reason ready ttlMs with
            ⟨_, _, _, same⟩ | ⟨_, running, _, changed⟩
          · rw [same]
            exact ⟨ready, rfl⟩
          · refine ⟨running, ?_⟩
            have stays : ¬ manager.evicted named = some subject := kept
            rw [changed, if_neg different, if_neg stays]
  | remove named =>
      have different : named ≠ subject := by simpa [QuarantineCall.concerns] using other
      obtain ⟨running, _, changed⟩ := remove_spec ready named
      simp only [QuarantineManager.call, QuarantineCall.sweep, filter_unswept]
      refine ⟨running, ?_⟩
      rw [changed, if_neg different]
  | check ts named =>
      have different : named ≠ subject := by simpa [QuarantineCall.concerns] using other
      obtain ⟨_, running, _, changed⟩ := check_spec ready ts named
      simp only [QuarantineManager.call, QuarantineCall.sweep, filter_unswept]
      refine ⟨running, ?_⟩
      rw [changed, if_neg different]
  | expireOld ts =>
      obtain ⟨running, _, changed⟩ := expire_old_spec ready ts
      exact ⟨running, changed subject⟩

def sweeps (calls : List (Nat × QuarantineCall)) : List UInt32 :=
  calls.filterMap fun timed => timed.2.sweep

theorem runs_undisturbed {manager : QuarantineManager} (ready : manager.initialized = true)
    {subject : QuarantineSubject} {start finish : Nat} {between : List (Nat × QuarantineCall)}
    (undisturbed : manager.Undisturbed subject start finish between) :
    (manager.runs between).initialized = true ∧
      (manager.runs between).lookup subject =
        (manager.lookup subject).filter fun entry =>
          (sweeps between).all fun ts => !entryIsExpired entry ts := by
  induction between generalizing manager with
  | nil =>
      refine ⟨ready, ?_⟩
      change manager.lookup subject = _
      cases manager.lookup subject <;> rfl
  | cons timed rest induction =>
      obtain ⟨running, first⟩ := call_undisturbed ready
        (undisturbed.others timed List.mem_cons_self) (undisturbed.kept [] timed rest rfl)
      have later : (manager.call timed.2).Undisturbed subject start finish rest := by
        constructor
        · intro other member
          exact undisturbed.within other (List.mem_cons_of_mem _ member)
        · intro other member
          exact undisturbed.clocked other (List.mem_cons_of_mem _ member)
        · intro other member
          exact undisturbed.others other (List.mem_cons_of_mem _ member)
        · intro before other after split
          exact undisturbed.kept (timed :: before) other after (by rw [split]; rfl)
      obtain ⟨stays, last⟩ := induction running later
      refine ⟨stays, last.trans ?_⟩
      rw [first, Option.filter_filter]
      congr 1
      funext entry
      cases swept : timed.2.sweep with
      | none => simp [sweeps, swept]
      | some ts => simp [sweeps, swept]

end QuarantineManager

/-! ## The deadline -/

/-- The first uptime after a start at which the clock reads zero again. -/
def nextWrap (start : Nat) : Nat := (start / 2 ^ 32 + 1) * 2 ^ 32

/-- When an entry counts as expired: a deadline up to the wrap ends there, a later one
is over from the start up to the wrap. -/
theorem deadline_passed_iff {start reading : Nat} {ttl : UInt32} (positive : ttl ≠ 0)
    (after : start ≤ reading) (span : reading - start < 2 ^ 32) {entry : QuarantineEntry}
    (deadline : entry.expiresAtMs = nowMs32 start + ttl) :
    QuarantineManager.entryIsExpired entry (nowMs32 reading) = true ↔
      if start + ttl.toNat ≤ nextWrap start then
        start + ttl.toNat ≤ reading ∧ reading < nextWrap start
      else reading < nextWrap start ∨ start + ttl.toNat ≤ reading := by
  have bound := ttl.toNat_lt
  have some_ttl : ttl.toNat ≠ 0 := by
    intro zero
    exact positive (UInt32.toNat_inj.mp zero)
  have expires : entry.expiresAtMs.toNat = (start + ttl.toNat) % 2 ^ 32 := by
    rw [deadline, UInt32.toNat_add, now_ms32_to_nat]
    omega
  have read : QuarantineManager.entryIsExpired entry (nowMs32 reading) = true ↔
      (start + ttl.toNat) % 2 ^ 32 ≠ 0 ∧ (start + ttl.toNat) % 2 ^ 32 ≤ reading % 2 ^ 32 := by
    unfold QuarantineManager.entryIsExpired
    rw [Bool.and_eq_true, bne_iff_ne, decide_eq_true_iff, UInt32.le_iff_toNat_le, expires,
      now_ms32_to_nat, ← expires]
    refine and_congr_left' (not_congr ?_)
    exact ⟨fun zero => by rw [zero]; rfl, fun zero => UInt32.toNat_inj.mp zero⟩
  rw [read]
  unfold nextWrap
  split_ifs with early
  · omega
  · omega

namespace QuarantineManager

section Ttl

variable {manager : QuarantineManager} {subject : QuarantineSubject} {start finish : Nat}
  {mode : QuarantineMode} {source : QuarantineSource} {ttl : UInt32} {riskScore : UInt8}
  {reason : Bytes} {between : List (Nat × QuarantineCall)}

theorem add_succeeds_lookup (ready : manager.initialized = true) {ts : UInt32}
    (positive : ttl ≠ 0)
    (added : (manager.add ts subject mode source ttl riskScore reason).1 = .ok ()) :
    (manager.add ts subject mode source ttl riskScore reason).2.initialized = true ∧
      ∃ entry, (manager.add ts subject mode source ttl riskScore reason).2.lookup subject =
        some entry ∧ entry.expiresAtMs = ts + ttl := by
  have isTtl : effectiveTtl manager ttl = ttl := if_neg positive
  cases valid : subjectIsValid subject with
  | false =>
      rw [add_invalid valid] at added
      cases added
  | true =>
      rcases add_spec ts valid mode source riskScore reason ready ttl with
        ⟨failed, _⟩ | ⟨_, running, _, changed⟩
      · rw [failed] at added
        cases added
      · refine ⟨running, _, (changed subject).trans (if_pos rfl), ?_⟩
        cases manager.lookup subject with
        | none =>
            change ts + effectiveTtl manager ttl = _
            rw [isTtl]
        | some old =>
            change ts + effectiveTtl manager ttl = _
            rw [isTtl]

theorem check_after_sweeps (ready : manager.initialized = true) {entry : QuarantineEntry}
    (held : manager.lookup subject = some entry)
    (undisturbed : manager.Undisturbed subject start finish between) (ts : UInt32) :
    ((manager.runs between).check ts subject).1.isSome = true ↔
      entryIsExpired entry ts = false ∧
        ∀ sweep ∈ sweeps between, entryIsExpired entry sweep = false := by
  obtain ⟨running, after⟩ := runs_undisturbed ready undisturbed
  rw [(check_spec running ts subject).1, after, held]
  cases kept : (sweeps between).all fun sweep => !entryIsExpired entry sweep with
  | true =>
      have all : ∀ sweep ∈ sweeps between, entryIsExpired entry sweep = false := by
        simpa using kept
      simp only [Option.filter_some, kept, if_true]
      cases expired : entryIsExpired entry ts with
      | true => simp [checkEntry, expired]
      | false => simpa [checkEntry, expired] using all
  | false =>
      simp only [Option.filter_some, kept, Bool.false_eq_true, if_false, checkEntry,
        Option.filter_none, Option.map_none, Option.isSome_none, false_iff]
      rintro ⟨_, all⟩
      obtain ⟨sweep, member, expired⟩ := List.all_eq_false.mp kept
      rw [all sweep member] at expired
      exact expired rfl

/-- The entry that was added is reported at the end if and only if its time is not over. -/
def LastsTtl (manager : QuarantineManager) (subject : QuarantineSubject) (start finish : Nat)
    (mode : QuarantineMode) (source : QuarantineSource) (ttl : UInt32) (riskScore : UInt8)
    (reason : Bytes) (between : List (Nat × QuarantineCall)) : Prop :=
  (((manager.add (nowMs32 start) subject mode source ttl riskScore reason).2.runs
      between).check (nowMs32 finish) subject).1.isSome = true ↔ finish - start < ttl.toNat

/-- A deadline up to the wrap of the clock is checked before the wrap, or was swept when it
was over. A deadline behind the wrap is over at the check anyway, or is neither swept nor
checked before the wrap. -/
def ReadTruly (start finish : Nat) (ttl : UInt32) (between : List (Nat × QuarantineCall)) :
    Prop :=
  if start + ttl.toNat ≤ nextWrap start then
    finish < nextWrap start ∨
      ∃ timed ∈ between, timed.2.sweep.isSome = true ∧ start + ttl.toNat ≤ timed.1 ∧
        timed.1 < nextWrap start
  else
    start + ttl.toNat ≤ finish ∨
      (nextWrap start ≤ finish ∧
        ∀ timed ∈ between, timed.2.sweep.isSome = true → nextWrap start ≤ timed.1)

theorem sweeps_expired_iff (undisturbed : manager.Undisturbed subject start finish between)
    (entry : QuarantineEntry) :
    (∀ sweep ∈ sweeps between, entryIsExpired entry sweep = false) ↔
      ∀ timed ∈ between, timed.2.sweep.isSome = true →
        entryIsExpired entry (nowMs32 timed.1) = false := by
  have reads : ∀ timed ∈ between, ∀ ts, timed.2.sweep = some ts → ts = nowMs32 timed.1 := by
    intro timed member ts swept
    apply undisturbed.clocked timed member
    cases call : timed.2 with
    | expireOld reading =>
        rw [call] at swept
        exact swept
    | _ =>
        rw [call] at swept
        cases swept
  constructor
  · intro all timed member swept
    obtain ⟨ts, isSweep⟩ := Option.isSome_iff_exists.mp swept
    rw [← reads timed member ts isSweep]
    exact all ts (List.mem_filterMap.mpr ⟨timed, member, isSweep⟩)
  · intro all ts member
    obtain ⟨timed, inside, isSweep⟩ := List.mem_filterMap.mp member
    rw [reads timed inside ts isSweep]
    exact all timed inside (Option.isSome_iff_exists.mpr ⟨ts, isSweep⟩)

/-- Before the wrap of the clock the deadline is read as it is, and never behind it. -/
theorem lasts_early_deadline_iff (early : start + ttl.toNat ≤ nextWrap start)
    (within : ∀ timed ∈ between, start ≤ timed.1 ∧ timed.1 ≤ finish) {expired : Nat → Prop}
    (passed : ∀ reading, start ≤ reading → reading ≤ finish →
      (expired reading ↔ start + ttl.toNat ≤ reading ∧ reading < nextWrap start))
    (ordered : start ≤ finish) :
    ((¬ expired finish ∧ ∀ timed ∈ between, timed.2.sweep.isSome = true → ¬ expired timed.1) ↔
        finish - start < ttl.toNat) ↔
      (finish < nextWrap start ∨
        ∃ timed ∈ between, timed.2.sweep.isSome = true ∧ start + ttl.toNat ≤ timed.1 ∧
          timed.1 < nextWrap start) := by
  rw [passed finish ordered (Nat.le_refl _)]
  constructor
  · intro exact_
    by_contra neither
    rw [not_or, not_exists] at neither
    obtain ⟨wrapped, unswept⟩ := neither
    have reported := exact_.mp ⟨by omega, ?_⟩
    · omega
    · intro timed member swept isExpired
      obtain ⟨after, before⟩ := within timed member
      obtain ⟨isOver, unwrapped⟩ := (passed timed.1 after before).mp isExpired
      exact unswept timed ⟨member, swept, isOver, unwrapped⟩
  · rintro (unwrapped | ⟨timed, member, swept, isOver, unwrapped⟩)
    · constructor
      · rintro ⟨unexpired, _⟩
        omega
      · intro lasting
        refine ⟨by omega, ?_⟩
        intro timed member _ isExpired
        obtain ⟨after, before⟩ := within timed member
        obtain ⟨isOver, _⟩ := (passed timed.1 after before).mp isExpired
        omega
    · obtain ⟨after, before⟩ := within timed member
      constructor
      · rintro ⟨_, unexpired⟩
        exact absurd ((passed timed.1 after before).mpr ⟨isOver, unwrapped⟩)
          (unexpired timed member swept)
      · intro lasting
        omega

/-- A deadline behind the wrap counts as over until the wrap. -/
theorem lasts_late_deadline_iff (late : ¬ start + ttl.toNat ≤ nextWrap start)
    (within : ∀ timed ∈ between, start ≤ timed.1 ∧ timed.1 ≤ finish) {expired : Nat → Prop}
    (passed : ∀ reading, start ≤ reading → reading ≤ finish →
      (expired reading ↔ reading < nextWrap start ∨ start + ttl.toNat ≤ reading))
    (ordered : start ≤ finish) :
    ((¬ expired finish ∧ ∀ timed ∈ between, timed.2.sweep.isSome = true → ¬ expired timed.1) ↔
        finish - start < ttl.toNat) ↔
      (start + ttl.toNat ≤ finish ∨
        (nextWrap start ≤ finish ∧
          ∀ timed ∈ between, timed.2.sweep.isSome = true → nextWrap start ≤ timed.1)) := by
  rw [passed finish ordered (Nat.le_refl _)]
  constructor
  · intro exact_
    by_cases isOver : start + ttl.toNat ≤ finish
    · exact Or.inl isOver
    · obtain ⟨unexpired, unswept⟩ := exact_.mpr (by omega)
      refine Or.inr ⟨by omega, ?_⟩
      intro timed member swept
      obtain ⟨after, before⟩ := within timed member
      have kept := unswept timed member swept
      rw [passed timed.1 after before] at kept
      omega
  · rintro (isOver | ⟨wrapped, unswept⟩)
    · constructor
      · rintro ⟨unexpired, _⟩
        omega
      · intro lasting
        omega
    · constructor
      · rintro ⟨unexpired, _⟩
        omega
      · intro lasting
        refine ⟨by omega, ?_⟩
        intro timed member swept isExpired
        obtain ⟨after, before⟩ := within timed member
        have behind := unswept timed member swept
        rcases (passed timed.1 after before).mp isExpired with unwrapped | isOver
        · omega
        · omega

theorem quarantine_lasts_ttl_iff (ready : manager.initialized = true) (ordered : start ≤ finish)
    (span : finish - start < 2 ^ 32) (positive : ttl ≠ 0)
    (added : (manager.add (nowMs32 start) subject mode source ttl riskScore reason).1 = .ok ())
    (undisturbed : (manager.add (nowMs32 start) subject mode source ttl riskScore
      reason).2.Undisturbed subject start finish between) :
    LastsTtl manager subject start finish mode source ttl riskScore reason between ↔
      ReadTruly start finish ttl between := by
  obtain ⟨running, entry, held, deadline⟩ := add_succeeds_lookup ready positive added
  unfold LastsTtl ReadTruly
  rw [check_after_sweeps running held undisturbed, sweeps_expired_iff undisturbed entry]
  simp only [← Bool.not_eq_true]
  have passed : ∀ reading, start ≤ reading → reading ≤ finish →
      (entryIsExpired entry (nowMs32 reading) = true ↔
        if start + ttl.toNat ≤ nextWrap start then
          start + ttl.toNat ≤ reading ∧ reading < nextWrap start
        else reading < nextWrap start ∨ start + ttl.toNat ≤ reading) := by
    intro reading after before
    exact deadline_passed_iff positive after (by omega) deadline
  split_ifs with early
  · simp only [if_pos early] at passed
    exact lasts_early_deadline_iff early undisturbed.within passed ordered
  · simp only [if_neg early] at passed
    exact lasts_late_deadline_iff early undisturbed.within passed ordered

end Ttl

def freshManager : QuarantineManager := boot.init none

theorem fresh_quarantine_lasts :
    LastsTtl freshManager (.ip 0xC0A80409) 1000 31000 .blockAll .manual 60000 50 [] [] := by
  apply (@quarantine_lasts_ttl_iff freshManager (.ip 0xC0A80409) 1000 31000 .blockAll .manual
    60000 50 [] [] rfl (by decide) (by decide) (by decide) (by decide +kernel)
    ⟨by simp, by simp, by simp, by simp⟩).mpr
  exact Or.inl (by decide)

/-- A minute that starts a second before the wrap is over after a millisecond. -/
theorem quarantine_near_wrap_lost :
    ¬ LastsTtl freshManager (.ip 0xC0A80409) (2 ^ 32 - 1000) (2 ^ 32 - 999) .blockAll .manual
      60000 50 [] [] := by
  unfold LastsTtl
  decide +kernel

end QuarantineManager

end BlindNet
