import BlindNet.Interop

/-!
# Expiry and the truncated clock

The uptime is counted in microseconds without wrapping; the expiry check sees
the milliseconds modulo `2^32`, and takes zero for a clock that is not known.
Both make an expired capsule look fresh again, and they are the only ways.
-/

namespace BlindNet

set_option autoImplicit false

open ByteLayout RecencyRing

def uptimeMs (timerUs : Int) : Nat :=
  timerUs.toNat / 1000

def Expired (env : Environment) (pill : ActionPill) : Prop :=
  pill.capsule.expiresMs.toNat < uptimeMs env.timerUs

/-- Everything but the time speaks for the pill: its digest is new, it is
authorised by a clock that is not known, and an entry opens it to a command that
is let through. -/
structure Acceptable (crypto : Crypto) (pipeline : ActionPipeline) (pill : ActionPill) : Prop where
  fresh : ∃ digest, computeCapsuleDigest crypto pill = .ok digest ∧
    digest ∉ pipeline.stomach.cpCache.recent
  authorised : validateAuthorized crypto pill 0 pipeline.issuerKeyId pipeline.issuerPublicKey =
    .ok ()
  digested : (digestActiveSubstance crypto pill pipeline.membrane.ribosomeTable none).1 = .ok ()
  publishable : DigestedActiveSubstance.Publishable pipeline.membrane
    (digestActiveSubstance crypto pill pipeline.membrane.ribosomeTable none).2

theorem now_ms_to_nat (timerUs : Int) : (nowMs timerUs).toNat = uptimeMs timerUs % 2 ^ 32 := by
  unfold nowMs uptimeMs
  split
  · have stopped : timerUs.toNat = 0 := by omega
    rw [stopped]
    rfl
  · exact UInt32.toNat_ofNat'

section Pill

variable {crypto : Crypto} {env : Environment} {pipeline : ActionPipeline} {pill : ActionPill}

/-- The special case of an unknown clock adds nothing: zero is before every expiry. -/
theorem basic_valid_at_iff (capsule : CapsulePill) (clock : UInt32) :
    capsule.BasicValid clock ↔
      capsule.BasicValid 0 ∧ clock.toNat ≤ capsule.expiresMs.toNat := by
  constructor
  · intro valid
    refine ⟨{ valid with unexpired := Or.inl rfl }, ?_⟩
    rcases valid.unexpired with unknown | early
    · rw [unknown]
      exact Nat.zero_le _
    · exact UInt32.le_iff_toNat_le.mp early
  · intro both
    rcases both with ⟨valid, early⟩
    exact { valid with unexpired := Or.inr (UInt32.le_iff_toNat_le.mpr early) }

theorem validate_authorized_at_iff (clock : UInt32) :
    validateAuthorized crypto pill clock pipeline.issuerKeyId pipeline.issuerPublicKey = .ok () ↔
      validateAuthorized crypto pill 0 pipeline.issuerKeyId pipeline.issuerPublicKey = .ok () ∧
        clock.toNat ≤ pill.capsule.expiresMs.toNat := by
  rw [validate_authorized_ok, validate_authorized_ok, basic_valid_at_iff _ clock]
  tauto

theorem digest_and_publish_nonempty :
    (pipeline.digestAndPublish crypto env pill).2 ≠ [] ↔
      validateAuthorized crypto pill (nowMs env.timerUs) pipeline.issuerKeyId
        pipeline.issuerPublicKey = .ok () ∧
      (digestActiveSubstance crypto pill pipeline.membrane.ribosomeTable none).1 = .ok () ∧
      DigestedActiveSubstance.Publishable pipeline.membrane
        (digestActiveSubstance crypto pill pipeline.membrane.ribosomeTable none).2 := by
  constructor
  · intro published
    unfold ActionPipeline.digestAndPublish at published
    cases authorised : validateAuthorized crypto pill (nowMs env.timerUs) pipeline.issuerKeyId
        pipeline.issuerPublicKey with
    | error err => simp [authorised] at published
    | ok =>
        cases digested :
            (digestActiveSubstance crypto pill pipeline.membrane.ribosomeTable none).1 with
        | error err => simp [authorised, digested] at published
        | ok =>
            simp only [authorised, digested] at published
            refine ⟨rfl, rfl, ?_⟩
            by_contra refused
            rcases @publish_digested_command_refused env.broker _ _ refused with ⟨err, nothing⟩
            exact published (by rw [nothing])
  · intro accepted
    rcases accepted with ⟨authorised, digested, publishable⟩
    rcases digest_and_publish_complete authorised (Prod.ext digested rfl) publishable
      with ⟨payload, -, published⟩
    rw [published]
    exact List.cons_ne_nil _ _

theorem process_action_pill_publishes_iff :
    (pipeline.processActionPill crypto env pill).1.2 ≠ [] ↔
      Acceptable crypto pipeline pill ∧
        uptimeMs env.timerUs % 2 ^ 32 ≤ pill.capsule.expiresMs.toNat := by
  rw [← now_ms_to_nat]
  rcases process_action_pill_cases crypto env pipeline pill with
    ⟨err, failed, processed⟩ | ⟨digest, computed, seen, processed⟩ |
      ⟨digest, computed, unseen, processed⟩
  · rw [processed]
    constructor
    · intro published
      exact absurd rfl published
    · intro both
      rcases both.1.fresh with ⟨digest, computed, -⟩
      rw [failed] at computed
      exact absurd computed (by simp)
  · rw [processed]
    constructor
    · intro published
      exact absurd rfl published
    · intro both
      rcases both.1.fresh with ⟨other, computedAgain, unseen⟩
      rw [computed, Except.ok.injEq] at computedAgain
      exact absurd (computedAgain ▸ seen) unseen
  · rw [processed, digest_and_publish_nonempty, validate_authorized_at_iff]
    constructor
    · intro accepted
      rcases accepted with ⟨⟨authorised, early⟩, digested, publishable⟩
      exact ⟨⟨⟨digest, computed, unseen⟩, authorised, digested, publishable⟩, early⟩
    · intro both
      rcases both with ⟨acceptable, early⟩
      exact ⟨⟨acceptable.authorised, early⟩, acceptable.digested, acceptable.publishable⟩

end Pill

/-- An expired pill is not published, unless the uptime has wrapped to a value
that is not past the expiry. -/
theorem expired_unpublished_iff (crypto : Crypto) (env : Environment) (pipeline : ActionPipeline)
    (pill : ActionPill) :
    (Expired env pill → (pipeline.processActionPill crypto env pill).1.2 = []) ↔
      (Expired env pill → pill.capsule.expiresMs.toNat < uptimeMs env.timerUs % 2 ^ 32 ∨
        ¬ Acceptable crypto pipeline pill) := by
  have published := @process_action_pill_publishes_iff crypto env pipeline pill
  constructor
  · intro silent expired
    by_contra wrapped
    push Not at wrapped
    exact published.mpr ⟨wrapped.2, wrapped.1⟩ (silent expired)
  · intro late expired
    by_contra loud
    rcases published.mp loud with ⟨acceptable, early⟩
    rcases late expired with past | refused
    · exact Nat.not_lt.mpr early past
    · exact refused acceptable

def wrappedEnvironment : Environment :=
  { benchEnvironment with timerUs := 2 ^ 32 * 1000 }

/-- After forty-nine days of uptime the lamp's pill, long expired, is published. -/
theorem expired_lamp_published :
    Expired wrappedEnvironment lampPill ∧
    (lampPipeline.processActionPill benchCrypto wrappedEnvironment lampPill).1.2 =
      [lampPublication] := by
  constructor
  · unfold Expired
    decide +kernel
  · decide +kernel

end BlindNet
