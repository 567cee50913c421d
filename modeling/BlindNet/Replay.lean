import BlindNet.Authorisation

/-!
# Replays

The stomach forgets a capsule digest only after sixteen other digests were
handled. Every pill that reassembly completes is handled, authentic or not, so
the sixteen need not be authorised for anything.
-/

namespace BlindNet

set_option autoImplicit false

open ByteLayout RecencyRing

/-- In this reception a pill with this capsule digest is handled, and a
publication is made on its behalf. -/
def PublishesFor (crypto : Crypto) (guardian : Guardian) (reception : Reception)
    (digest : ByteArr 32) : Prop :=
  ∃ pill publication,
    Event.handled pill ∈ (onFragmentReceived crypto guardian reception).2 ∧
    computeCapsuleDigest crypto pill = .ok digest ∧
    Event.published publication ∈ (onFragmentReceived crypto guardian reception).2

def Guardian.cpCache (guardian : Guardian) : Option StomachCpCache :=
  guardian.core.pipeline.map fun pipeline => pipeline.stomach.cpCache

theorem process_locally_cp_cache {crypto : Crypto} {env : Environment} {core : Core}
    {pill : ActionPill} {digest : ByteArr 32} {pipeline : ActionPipeline}
    (present : core.pipeline = some pipeline)
    (computed : computeCapsuleDigest crypto pill = .ok digest) :
    (digest ∈ pipeline.stomach.cpCache.recent ∧
      (processLocally crypto env core pill).1.2 = [] ∧
      (processLocally crypto env core pill).2.pipeline = some pipeline) ∨
    (digest ∉ pipeline.stomach.cpCache.recent ∧
      (processLocally crypto env core pill).2.pipeline = some { pipeline with
        stomach := ⟨pipeline.stomach.cpCache.add digest⟩ }) := by
  simp only [processLocally, present]
  rcases process_action_pill_cases crypto env pipeline pill with failed | seen | fresh
  · obtain ⟨err, failed, -⟩ := failed
    rw [computed] at failed
    exact absurd failed (by simp)
  · obtain ⟨other, again, held, processed⟩ := seen
    rw [computed, Except.ok.injEq] at again
    subst again
    exact Or.inl ⟨held, by rw [processed], by rw [processed]⟩
  · obtain ⟨other, again, absent, processed⟩ := fresh
    rw [computed, Except.ok.injEq] at again
    subst again
    exact Or.inr ⟨absent, by rw [processed]⟩

theorem process_locally_length (crypto : Crypto) (env : Environment) (core : Core)
    (pill : ActionPill) : (processLocally crypto env core pill).1.2.length ≤ 1 := by
  cases present : core.pipeline with
  | none => simp [processLocally, present]
  | some pipeline =>
      simp only [processLocally, present]
      rcases process_action_pill_cases crypto env pipeline pill with failed | seen | fresh
      · obtain ⟨err, -, processed⟩ := failed
        simp [processed]
      · obtain ⟨digest, -, -, processed⟩ := seen
        simp [processed]
      · obtain ⟨digest, -, -, processed⟩ := fresh
        rw [processed]
        exact digest_and_publish_length crypto env pipeline pill

theorem reception_publications_length (crypto : Crypto) (guardian : Guardian)
    (reception : Reception) :
    (publicationsOf (onFragmentReceived crypto guardian reception).2).length ≤ 1 := by
  rcases on_fragment_received_cases crypto guardian reception with quiet | handled
  · simp [quiet.events, publicationsOf]
  · obtain ⟨pill, messageId, handles⟩ := handled
    obtain ⟨sent, -, -, events⟩ := handles.events
    have calls : publicationsOf (onFragmentReceived crypto guardian reception).2 =
        (processLocally crypto reception.env guardian.core pill).1.2 := by
      rw [events]
      simp [publicationsOf, List.filterMap_append, List.filterMap_map]
    rw [calls]
    exact process_locally_length crypto reception.env guardian.core pill

theorem PublishesFor.cp_cache {crypto : Crypto} {guardian : Guardian} {reception : Reception}
    {digest : ByteArr 32} (publishes : PublishesFor crypto guardian reception digest) :
    ∃ cache, guardian.cpCache = some cache ∧ digest ∉ cache.recent ∧
      (onFragmentReceived crypto guardian reception).1.cpCache = some (cache.add digest) := by
  obtain ⟨pill, publication, isHandled, computed, isPublished⟩ := publishes
  rcases on_fragment_received_cases crypto guardian reception with quiet | handled
  · rw [quiet.events] at isHandled
    simp at isHandled
  · obtain ⟨other, messageId, handles⟩ := handled
    obtain ⟨sent, -, -, events⟩ := handles.events
    have same : pill = other := by
      rw [events] at isHandled
      simpa using isHandled
    subst same
    have published : publication ∈
        (processLocally crypto reception.env guardian.core pill).1.2 := by
      rw [events] at isPublished
      simpa using isPublished
    obtain ⟨pipeline, own, present, ownComputed, unseen, -, processed⟩ :=
      process_locally_published published
    rw [computed, Except.ok.injEq] at ownComputed
    subst ownComputed
    refine ⟨pipeline.stomach.cpCache, by rw [Guardian.cpCache, present]; rfl, unseen, ?_⟩
    rw [Guardian.cpCache, handles.core, processed]
    rfl

/-- The digests are pairwise distinct, other than `digest`, and were all handled. -/
structure HandledOthers (crypto : Crypto) (digest : ByteArr 32) (events : List Event)
    (others : List (ByteArr 32)) : Prop where
  distinct : others.Nodup
  different : digest ∉ others
  handled : ∀ other ∈ others, other ∈ handledDigests crypto events

theorem HandledOthers.mono {crypto : Crypto} {digest : ByteArr 32} {part whole : List Event}
    {others : List (ByteArr 32)} (handled : HandledOthers crypto digest part others)
    (included : handledDigests crypto part ⊆ handledDigests crypto whole) :
    HandledOthers crypto digest whole others where
  distinct := handled.distinct
  different := handled.different
  handled := fun other member => included (handled.handled other member)

theorem HandledOthers.append {crypto : Crypto} {digest : ByteArr 32} {events : List Event}
    {others : List (ByteArr 32)} (handled : HandledOthers crypto digest events others)
    (later : List Event) : HandledOthers crypto digest (events ++ later) others := by
  apply handled.mono
  rw [handled_digests_append]
  exact List.subset_append_left _ _

section Retention

variable {capacity : Nat} {cacheOf : Guardian → Option (Ring (ByteArr 32) capacity)}
  {crypto : Crypto} {digest : ByteArr 32}

/-- In this reception the cache takes at most one new digest, that of a handled
pill. -/
def InsertsOnce (cacheOf : Guardian → Option (Ring (ByteArr 32) capacity)) (crypto : Crypto)
    (guardian : Guardian) (reception : Reception) : Prop :=
  ∀ cache, cacheOf guardian = some cache →
    cacheOf (onFragmentReceived crypto guardian reception).1 = some cache ∨
    ∃ other, handledDigests crypto (onFragmentReceived crypto guardian reception).2 = [other] ∧
      other ∉ cache.recent ∧
      cacheOf (onFragmentReceived crypto guardian reception).1 = some (cache.add other)

/-- Since the digest was inserted, either it is still held behind digests
handled meanwhile, or as many were handled as the cache has room for. -/
def Retained (cacheOf : Guardian → Option (Ring (ByteArr 32) capacity)) (crypto : Crypto)
    (digest : ByteArr 32) (guardian : Guardian) (events : List Event) : Prop :=
  (∃ cache newer, cacheOf guardian = some cache ∧ cache.Behind digest newer ∧
    HandledOthers crypto digest events newer) ∨
  ∃ others, others.length = capacity ∧ HandledOthers crypto digest events others

theorem retained_start {guardian : Guardian} {cache : Ring (ByteArr 32) capacity}
    (held : cacheOf guardian = some cache) (behind : cache.Behind digest []) :
    Retained cacheOf crypto digest guardian [] :=
  Or.inl ⟨cache, [], held, behind, List.nodup_nil, List.not_mem_nil,
    fun _ member => absurd member List.not_mem_nil⟩

theorem retained_step (guardian : Guardian) (history : List Event) (reception : Reception)
    (inserts : InsertsOnce cacheOf crypto guardian reception)
    (retained : Retained cacheOf crypto digest guardian history) :
    Retained cacheOf crypto digest (onFragmentReceived crypto guardian reception).1
      (history ++ (onFragmentReceived crypto guardian reception).2) := by
  rcases retained with ⟨cache, newer, held, behind, handled⟩ | ⟨others, many, handled⟩
  · rcases inserts cache held with same | ⟨other, events, absent, added⟩
    · exact Or.inl ⟨cache, newer, same, behind, handled.append _⟩
    · have unequal : digest ≠ other := by
        intro equal
        exact absent (equal ▸ behind.mem)
      have unheld : other ∉ newer := by
        intro member
        obtain ⟨older, recent⟩ := behind
        exact absent (recent ▸ List.mem_append_left _ member)
      have extended : HandledOthers crypto digest
          (history ++ (onFragmentReceived crypto guardian reception).2) (other :: newer) := by
        refine ⟨List.nodup_cons.mpr ⟨unheld, handled.distinct⟩, ?_, ?_⟩
        · rw [List.mem_cons, not_or]
          exact ⟨unequal, handled.different⟩
        · intro entry member
          rcases List.mem_cons.mp member with rfl | member
          · rw [handled_digests_append, events]
            exact List.mem_append_right _ (List.mem_singleton_self entry)
          · exact (handled.append _).handled entry member
      by_cases room : newer.length + 1 < capacity
      · exact Or.inl ⟨cache.add other, other :: newer, added, behind.add room, extended⟩
      · -- The digest falls out: exactly the whole ring was overwritten since.
        have full : (other :: newer).length = capacity := by
          obtain ⟨older, recent⟩ := behind
          have bounded := cache.recent_length_le
          rw [recent, List.length_append, List.length_cons] at bounded
          rw [List.length_cons]
          omega
        exact Or.inr ⟨other :: newer, full, extended⟩
  · exact Or.inr ⟨others, many, handled.append _⟩

/-- A digest just inserted is still held after a run, or as many others were
handled as the cache has room for. -/
theorem retained_run {guardian : Guardian} {cache : Ring (ByteArr 32) capacity}
    (held : cacheOf guardian = some cache) (behind : cache.Behind digest [])
    (receptions : List Reception)
    (inserts : ∀ before reception after, receptions = before ++ reception :: after →
      InsertsOnce cacheOf crypto (runGuardian crypto guardian before).1 reception) :
    (∃ later, cacheOf (runGuardian crypto guardian receptions).1 = some later ∧
      digest ∈ later.recent) ∨
    ∃ others, others.length = capacity ∧
      HandledOthers crypto digest (runGuardian crypto guardian receptions).2 others := by
  have retained := EventMachine.guarded_history_run (onFragmentReceived crypto)
    (InsertsOnce cacheOf crypto) (Retained cacheOf crypto digest) retained_step guardian []
    receptions inserts (retained_start held behind)
  rw [List.nil_append] at retained
  rcases retained with ⟨later, newer, still, behind, -⟩ | many
  · exact Or.inl ⟨later, still, behind.mem⟩
  · exact Or.inr many

end Retention

/-- What one reception does to the stomach's cache. -/
theorem cp_cache_step (crypto : Crypto) (guardian : Guardian) (reception : Reception) :
    InsertsOnce Guardian.cpCache crypto guardian reception := by
  intro cache held
  obtain ⟨pipeline, present, rfl⟩ := Option.map_eq_some_iff.mp held
  rcases on_fragment_received_cases crypto guardian reception with quiet | handled
  · left
    rw [Guardian.cpCache, quiet.core]
    exact held
  · obtain ⟨pill, messageId, handles⟩ := handled
    have digest : computeCapsuleDigest crypto pill = .ok messageId := handles.digest
    rcases @process_locally_cp_cache crypto reception.env _ _ _ _ present digest with seen | fresh
    · left
      rw [Guardian.cpCache, handles.core, seen.2.2]
      rfl
    · right
      refine ⟨messageId, handles.handled_digests, fresh.1, ?_⟩
      rw [Guardian.cpCache, handles.core, fresh.2]
      rfl

theorem sixteen_others_between {crypto : Crypto} {guardian : Guardian} {digest : ByteArr 32}
    {first second : Reception} {between : List Reception}
    (published : PublishesFor crypto guardian first digest)
    (again : PublishesFor crypto (runGuardian crypto guardian (first :: between)).1 second
      digest) :
    ∃ others, others.length = 16 ∧ HandledOthers crypto digest
      (runGuardian crypto (onFragmentReceived crypto guardian first).1 between).2 others := by
  obtain ⟨cache, -, -, added⟩ := published.cp_cache
  obtain ⟨later, held, absent, -⟩ := again.cp_cache
  rcases retained_run added (cache.behind_add_self digest) between
    (fun _ reception _ _ => cp_cache_step crypto _ reception) with ⟨final, still, kept⟩ | many
  · change Guardian.cpCache (runGuardian crypto guardian (first :: between)).1 = some final at still
    rw [held, Option.some.injEq] at still
    exact absurd (still ▸ kept) absent
  · exact many

/-- The publications of a run that are made while a pill with this capsule
digest is handled. -/
def publicationsFor (crypto : Crypto) (digest : ByteArr 32) :
    Guardian → List Reception → List Publication
  | _, [] => []
  | guardian, reception :: rest =>
      (if digest ∈ handledDigests crypto (onFragmentReceived crypto guardian reception).2 then
        publicationsOf (onFragmentReceived crypto guardian reception).2
      else []) ++
      publicationsFor crypto digest (onFragmentReceived crypto guardian reception).1 rest

theorem publishes_for_of_mem {crypto : Crypto} {digest : ByteArr 32} {guardian : Guardian}
    {reception : Reception} {publication : Publication}
    (handled : digest ∈ handledDigests crypto (onFragmentReceived crypto guardian reception).2)
    (made : publication ∈ publicationsOf (onFragmentReceived crypto guardian reception).2) :
    PublishesFor crypto guardian reception digest := by
  obtain ⟨event, isHandled, computed⟩ := List.mem_filterMap.mp handled
  obtain ⟨call, isPublished, same⟩ := List.mem_filterMap.mp made
  cases event with
  | relayed | published => simp at computed
  | handled pill =>
      cases call with
      | handled | relayed => simp at same
      | published own =>
          refine ⟨pill, own, isHandled, ?_, isPublished⟩
          cases answer : computeCapsuleDigest crypto pill with
          | error err => simp [answer, Except.toOption] at computed
          | ok own => simpa [answer, Except.toOption] using computed

theorem publications_for_origin {crypto : Crypto} {digest : ByteArr 32}
    {receptions : List Reception} {guardian : Guardian} {publication : Publication}
    (made : publication ∈ publicationsFor crypto digest guardian receptions) :
    ∃ before reception after, receptions = before ++ reception :: after ∧
      PublishesFor crypto (runGuardian crypto guardian before).1 reception digest := by
  induction receptions generalizing guardian with
  | nil => simp [publicationsFor] at made
  | cons reception rest ih =>
      rw [publicationsFor, List.mem_append] at made
      rcases made with now | later
      · split at now
        next handled => exact ⟨[], reception, rest, rfl, publishes_for_of_mem handled now⟩
        next => simp at now
      · obtain ⟨before, next, after, split, publishes⟩ := ih later
        exact ⟨reception :: before, next, after, by rw [split, List.cons_append], publishes⟩

/-- What was handled in a stretch of a run was handled in the run. -/
theorem HandledOthers.of_stretch {crypto : Crypto} {digest : ByteArr 32} {guardian : Guardian}
    {first : Reception} {stretch rest : List Reception} {others : List (ByteArr 32)}
    (handled : HandledOthers crypto digest
      (runGuardian crypto (onFragmentReceived crypto guardian first).1 stretch).2 others)
    (inside : stretch <+: rest) :
    HandledOthers crypto digest (runGuardian crypto guardian (first :: rest)).2 others := by
  obtain ⟨suffix, rfl⟩ := inside
  apply handled.mono
  simp only [runGuardian, EventMachine.run_cons, EventMachine.run_append, handled_digests_append]
  exact fun other member => List.mem_append_right _ (List.mem_append_left _ member)

/-- A later publication for the digest takes sixteen others before it. -/
theorem later_publications_nil {crypto : Crypto} {digest : ByteArr 32} {guardian : Guardian}
    {first : Reception} {rest : List Reception}
    (few : ∀ others, HandledOthers crypto digest
      (runGuardian crypto guardian (first :: rest)).2 others → others.length < 16)
    (published : PublishesFor crypto guardian first digest) :
    publicationsFor crypto digest (onFragmentReceived crypto guardian first).1 rest = [] := by
  apply List.eq_nil_iff_forall_not_mem.mpr
  intro publication member
  obtain ⟨between, second, after, split, again⟩ := publications_for_origin member
  obtain ⟨others, sixteen, handled⟩ := sixteen_others_between published again
  have bound := few others (handled.of_stretch ⟨second :: after, split.symm⟩)
  omega

theorem publications_for_length {crypto : Crypto} {digest : ByteArr 32}
    (receptions : List Reception) (guardian : Guardian)
    (few : ∀ others, HandledOthers crypto digest (runGuardian crypto guardian receptions).2 others →
      others.length < 16) :
    (publicationsFor crypto digest guardian receptions).length ≤ 1 := by
  induction receptions generalizing guardian with
  | nil => simp [publicationsFor]
  | cons reception rest ih =>
      have tail := ih _ fun others handled =>
        few others (handled.of_stretch (List.prefix_refl rest))
      rw [publicationsFor]
      split
      next handled =>
        cases made : publicationsOf (onFragmentReceived crypto guardian reception).2 with
        | nil => exact tail
        | cons publication more =>
            have published : PublishesFor crypto guardian reception digest :=
              publishes_for_of_mem handled (made ▸ List.mem_cons_self)
            rw [later_publications_nil few published, List.append_nil, ← made]
            exact reception_publications_length crypto guardian reception
      next => exact tail

/-- A reception makes at most one publication, and between two receptions that
publish for one capsule digest, in any run from any state, sixteen other
digests are handled. So a run that handles fewer others publishes for the
digest at most once. -/
theorem replay_needs_sixteen_others (crypto : Crypto) :
    (∀ guardian reception,
      (publicationsOf (onFragmentReceived crypto guardian reception).2).length ≤ 1) ∧
    (∀ guardian digest first between second,
      PublishesFor crypto guardian first digest →
      PublishesFor crypto (runGuardian crypto guardian (first :: between)).1 second digest →
      ∃ others, others.length = 16 ∧ HandledOthers crypto digest
        (runGuardian crypto (onFragmentReceived crypto guardian first).1 between).2 others) ∧
    ∀ guardian digest receptions,
      (∀ others, HandledOthers crypto digest (runGuardian crypto guardian receptions).2 others →
        others.length < 16) →
      (publicationsFor crypto digest guardian receptions).length ≤ 1 :=
  ⟨reception_publications_length crypto,
    fun _ _ _ _ _ published again => sixteen_others_between published again,
    fun guardian _ receptions few => publications_for_length receptions guardian few⟩

theorem pill_receptions_carry {pill : ActionPill} {messageId : MessageId}
    {envs : Fin 3 → Environment} {reception : Reception}
    (member : reception ∈ pillReceptions pill messageId envs) :
    frameMessageId reception.frame = messageId := by
  simp only [pillReceptions, List.mem_cons, List.not_mem_nil, or_false] at member
  rcases member with rfl | rfl | rfl
  · exact frame_message_id_wire_frame _
  · exact frame_message_id_wire_frame _
  · exact frame_message_id_wire_frame _

theorem publishes_for_of_delivery {crypto : Crypto} {guardian : Guardian} {pill : ActionPill}
    {messageId : MessageId} {envs : Fin 3 → Environment} {publication : Publication}
    (made : Event.published publication ∈
      (runGuardian crypto guardian (pillReceptions pill messageId envs)).2) :
    ∃ before reception after,
      pillReceptions pill messageId envs = before ++ reception :: after ∧
      PublishesFor crypto (runGuardian crypto guardian before).1 reception messageId := by
  obtain ⟨before, reception, after, split, origin⟩ :=
    EventMachine.event_origin (onFragmentReceived crypto) guardian _ _ made
  refine ⟨before, reception, after, split, ?_⟩
  have carried : frameMessageId reception.frame = messageId := by
    have member : reception ∈ pillReceptions pill messageId envs := by
      rw [split]
      exact List.mem_append_right _ List.mem_cons_self
    exact pill_receptions_carry member
  rcases on_fragment_received_cases crypto (runGuardian crypto guardian before).1 reception
    with quiet | handled
  · change _ ∈ (onFragmentReceived crypto (runGuardian crypto guardian before).1 reception).2
      at origin
    rw [quiet.events] at origin
    simp at origin
  · obtain ⟨other, otherId, handles⟩ := handled
    obtain ⟨sent, -, -, events⟩ := handles.events
    have same : otherId = messageId := (carried_id_frame handles.carried).trans carried
    refine ⟨other, publication, ?_, same ▸ handles.digest, origin⟩
    rw [events]
    exact List.mem_cons_self

def forgedPill (index : Nat) : ActionPill :=
  { lampPill with capsule := { lampPill.capsule with
      nonce := List.Vector.replicate 16 (UInt8.ofNat (10 + index)) } }

def forgedId (index : Nat) : MessageId :=
  benchDigest (capsuleSignedCanonical (forgedPill index).capsule ++
    [(forgedPill index).capsule.signatureLen] ++
    capsuleSignatureBytes (forgedPill index).capsule
      (ActiveSubstance.layout.encode (forgedPill index).active))

theorem forged_pill_digest (index : Nat) :
    computeCapsuleDigest benchCrypto (forgedPill index) = .ok (forgedId index) := rfl

def forgedPills : List (ActionPill × MessageId) :=
  (List.range 16).map fun index => (forgedPill index, forgedId index)

theorem forged_pills_unauthorised :
    ∀ index ∈ List.range 16, validateAuthorized benchCrypto (forgedPill index)
      (nowMs benchEnvironment.timerUs) lampPipeline.issuerKeyId lampPipeline.issuerPublicKey ≠
        .ok () := by
  decide +kernel

theorem forged_ids_distinct :
    (lampBuild.messageId :: forgedPills.map Prod.snd).Nodup := by
  decide +kernel

def lampReceptions : List Reception :=
  pillReceptions lampPill lampBuild.messageId fun _ => benchEnvironment

def floodedReplay : List Reception :=
  lampReceptions ++ (deliveries benchEnvironment forgedPills ++ lampReceptions)

theorem flooded_lamp :
    Event.published lampPublication ∈ (runGuardian benchCrypto lampGuardian lampReceptions).2 ∧
      Event.published lampPublication ∈ (runGuardian benchCrypto
        (runGuardian benchCrypto (runGuardian benchCrypto lampGuardian lampReceptions).1
          (deliveries benchEnvironment forgedPills)).1 lampReceptions).2 := by
  have digests : ∀ entry ∈ forgedPills, computeInnerId benchCrypto entry.1 = .ok entry.2 := by
    intro entry member
    obtain ⟨index, -, rfl⟩ := List.mem_map.mp member
    exact forged_pill_digest index
  exact @flooded_replay benchCrypto benchEnvironment (by decide) lampGuardian lamp_guardian_idle
    lampPipeline rfl lampPill lampBuild.messageId lamp_pill_digest _ [lampPublication]
    lamp_pill_published forgedPills (by simp [forgedPills]) digests forged_ids_distinct
    (by simp [lampGuardian, G2g.boot]) (by simp [lampPipeline, Stomach.new]) lampPublication
    (List.mem_singleton_self _)

theorem flooded_lamp_publishes :
    ∃ before first between second after,
      floodedReplay = before ++ first :: (between ++ second :: after) ∧
      PublishesFor benchCrypto (runGuardian benchCrypto lampGuardian before).1 first
        lampBuild.messageId ∧
      PublishesFor benchCrypto (runGuardian benchCrypto
        (runGuardian benchCrypto lampGuardian before).1 (first :: between)).1 second
        lampBuild.messageId := by
  obtain ⟨once, twice⟩ := flooded_lamp
  obtain ⟨before, first, rest, split, publishes⟩ := publishes_for_of_delivery once
  obtain ⟨before', second, after, split', publishes'⟩ := publishes_for_of_delivery twice
  refine ⟨before, first, rest ++ (deliveries benchEnvironment forgedPills ++ before'), second,
    after, ?_, publishes, ?_⟩
  · rw [floodedReplay]
    nth_rewrite 2 [lampReceptions]
    rw [split', lampReceptions, split]
    simp only [List.append_assoc, List.cons_append]
  · have reached : (runGuardian benchCrypto (runGuardian benchCrypto lampGuardian before).1
        (first :: (rest ++ (deliveries benchEnvironment forgedPills ++ before')))).1 =
          (runGuardian benchCrypto (runGuardian benchCrypto (runGuardian benchCrypto lampGuardian
            lampReceptions).1 (deliveries benchEnvironment forgedPills)).1 before').1 := by
      rw [← List.cons_append, ← run_guardian_append, ← List.append_assoc, ← split,
        run_guardian_append, run_guardian_append, lampReceptions]
    rw [reached]
    exact publishes'

/-- Within the validity window of the lamp's capsule, the Guardian publishes its
command twice; none of the sixteen pills in between is authorised. -/
theorem lamp_published_twice :
    enterNormalMode lampConfig lampStored = .ok lampGuardian ∧
    (∀ reception ∈ floodedReplay,
      nowMs reception.env.timerUs ≤ lampPill.capsule.expiresMs) ∧
    (∀ index ∈ List.range 16, validateAuthorized benchCrypto (forgedPill index)
      (nowMs benchEnvironment.timerUs) lampPipeline.issuerKeyId lampPipeline.issuerPublicKey ≠
        .ok ()) ∧
    ∃ before first between second after,
      floodedReplay = before ++ first :: (between ++ second :: after) ∧
      PublishesFor benchCrypto (runGuardian benchCrypto lampGuardian before).1 first
        lampBuild.messageId ∧
      PublishesFor benchCrypto (runGuardian benchCrypto
        (runGuardian benchCrypto lampGuardian before).1 (first :: between)).1 second
        lampBuild.messageId := by
  refine ⟨lamp_guardian_booted, ?_, forged_pills_unauthorised, flooded_lamp_publishes⟩
  have early : nowMs benchEnvironment.timerUs ≤ lampPill.capsule.expiresMs := by decide +kernel
  have timed : ∀ reception ∈ floodedReplay, reception.env = benchEnvironment := by
    intro reception member
    rw [floodedReplay, List.mem_append, List.mem_append] at member
    rcases member with first | forged | again
    · exact pill_receptions_env first
    · exact deliveries_env forged
    · exact pill_receptions_env again
  intro reception member
  rw [timed reception member]
  exact early

theorem lamp_receptions_few (others : List (ByteArr 32))
    (handled : HandledOthers benchCrypto lampBuild.messageId
      (runGuardian benchCrypto lampGuardian lampReceptions).2 others) : others.length < 16 := by
  have none : others = [] := by
    apply List.eq_nil_iff_forall_not_mem.mpr
    intro other member
    obtain ⟨reception, received, carried⟩ :=
      handled_digests_carried (handled.handled other member)
    have same : other = lampBuild.messageId :=
      (carried_id_frame carried).trans (pill_receptions_carry received)
    exact handled.different (same ▸ member)
  simp [none]

theorem flooded_lamp_others :
    (∃ guardian first between second,
      PublishesFor benchCrypto guardian first lampBuild.messageId ∧
      PublishesFor benchCrypto (runGuardian benchCrypto guardian (first :: between)).1 second
        lampBuild.messageId ∧
      ∃ others, others.length = 16 ∧ HandledOthers benchCrypto lampBuild.messageId
        (runGuardian benchCrypto (onFragmentReceived benchCrypto guardian first).1 between).2
        others) ∧
    Event.published lampPublication ∈ (runGuardian benchCrypto lampGuardian lampReceptions).2 ∧
    (publicationsFor benchCrypto lampBuild.messageId lampGuardian lampReceptions).length ≤ 1 := by
  obtain ⟨before, first, between, second, after, -, publishes, again⟩ := flooded_lamp_publishes
  obtain ⟨-, others, once⟩ := replay_needs_sixteen_others benchCrypto
  exact ⟨⟨_, first, between, second, publishes, again,
    others _ _ first between second publishes again⟩, flooded_lamp.1,
    once lampGuardian lampBuild.messageId lampReceptions lamp_receptions_few⟩

end BlindNet
