import BlindNet.Reassembly

/-!
# Whole pills, one after another

What a Guardian with no reassembly under way becomes after a sequence of pills
whose ids are all new: every pill is handled, and each relayed id enters the
seen cache twice.
-/

namespace BlindNet

set_option autoImplicit false

open ByteLayout RecencyRing

def Idle (guardian : Guardian) : Prop := ∀ index, (guardian.g2g.rxSlots index).inUse = false

def deliveries (env : Environment) (pills : List (ActionPill × MessageId)) : List Reception :=
  pills.flatMap fun (pill, messageId) => pillReceptions pill messageId fun _ => env

theorem pill_receptions_env {pill : ActionPill} {messageId : MessageId} {env : Environment}
    {reception : Reception}
    (member : reception ∈ pillReceptions pill messageId fun _ => env) : reception.env = env := by
  simp only [pillReceptions, List.mem_cons, List.not_mem_nil, or_false] at member
  rcases member with rfl | rfl | rfl <;> rfl

theorem deliveries_env {pills : List (ActionPill × MessageId)} {env : Environment}
    {reception : Reception} (member : reception ∈ deliveries env pills) : reception.env = env := by
  obtain ⟨entry, -, member⟩ := List.mem_flatMap.mp member
  exact pill_receptions_env member

theorem deliver_pill_idle {crypto : Crypto} {guardian : Guardian} {pill : ActionPill}
    {messageId : MessageId} (idle : Idle guardian)
    (unseen : messageId ∉ guardian.g2g.seenCache.recent)
    (digest : computeInnerId crypto pill = .ok messageId) (env : Environment) :
    ∃ (slots : Fin g2gRxSlots → RxSlot) (sent : List Bytes),
      (∀ index, (slots index).inUse = false) ∧
      runGuardian crypto guardian (pillReceptions pill messageId fun _ => env) =
        (⟨⟨seenAfterHandling env.ble guardian.g2g.seenCache messageId, slots⟩,
            (processLocally crypto env guardian.core pill).2⟩,
          .handled pill :: (sent.map Event.relayed ++
            (processLocally crypto env guardian.core pill).1.2.map Event.published)) := by
  have absent : ∀ index, ¬ (guardian.g2g.rxSlots index).HeldFor messageId := by
    intro index held
    rw [RxSlot.HeldFor, idle index] at held
    exact absurd held.1 (by decide)
  obtain ⟨slots, sent, kept, -, -, -, final⟩ :=
    deliver_pill absent ⟨0, idle 0⟩ unseen digest fun _ => env
  refine ⟨slots, sent, ?_, final⟩
  intro index
  by_contra used
  rw [Bool.not_eq_false] at used
  have same := kept index used
  rw [same, idle index] at used
  exact absurd used (by decide)

/-- A new pill that passes the checks, on an idle Guardian: its publications are
made, and both caches remember it. -/
theorem deliver_published {crypto : Crypto} {env : Environment} {guardian : Guardian}
    {pipeline : ActionPipeline} {pill : ActionPill} {messageId : MessageId} {result : Result Unit}
    {publications : List Publication} (idle : Idle guardian)
    (present : guardian.core.pipeline = some pipeline)
    (unseen : messageId ∉ guardian.g2g.seenCache.recent)
    (undigested : messageId ∉ pipeline.stomach.cpCache.recent)
    (digest : computeCapsuleDigest crypto pill = .ok messageId)
    (published : pipeline.digestAndPublish crypto env pill = (result, publications)) :
    ∃ (slots : Fin g2gRxSlots → RxSlot) (sent : List Bytes),
      (∀ index, (slots index).inUse = false) ∧
      runGuardian crypto guardian (pillReceptions pill messageId fun _ => env) =
        (⟨⟨seenAfterHandling env.ble guardian.g2g.seenCache messageId, slots⟩,
            ⟨some { pipeline with stomach := ⟨pipeline.stomach.cpCache.add messageId⟩ },
              guardian.core.currentState⟩⟩,
          .handled pill :: (sent.map Event.relayed ++ publications.map Event.published)) := by
  obtain ⟨slots, sent, free, run⟩ := deliver_pill_idle idle unseen digest env
  have processed : processLocally crypto env guardian.core pill = ((result, publications),
      ⟨some { pipeline with stomach := ⟨pipeline.stomach.cpCache.add messageId⟩ },
        guardian.core.currentState⟩) := by
    simp only [processLocally, present, process_action_pill_unseen digest undigested, published]
  rw [processed] at run
  exact ⟨slots, sent, free, run⟩

theorem deliver_pills {crypto : Crypto} {env : Environment} (relays : env.ble.takes 3 = true)
    (pills : List (ActionPill × MessageId)) {guardian : Guardian} (idle : Idle guardian)
    (digests : ∀ entry ∈ pills, computeInnerId crypto entry.1 = .ok entry.2)
    (distinct : (pills.map Prod.snd).Nodup)
    (unseen : ∀ entry ∈ pills, entry.2 ∉ guardian.g2g.seenCache.recent) :
    ∃ slots : Fin g2gRxSlots → RxSlot, (∀ index, (slots index).inUse = false) ∧
      (runGuardian crypto guardian (deliveries env pills)).1 =
        ⟨⟨(pills.flatMap fun entry => [entry.2, entry.2]).foldl Ring.add guardian.g2g.seenCache,
            slots⟩,
          pills.foldl (fun core entry => (processLocally crypto env core entry.1).2)
            guardian.core⟩ := by
  induction pills generalizing guardian with
  | nil => exact ⟨guardian.g2g.rxSlots, idle, rfl⟩
  | cons entry rest induction =>
      obtain ⟨pill, messageId⟩ := entry
      rw [List.map_cons, List.nodup_cons] at distinct
      obtain ⟨slots, sent, free, first⟩ := deliver_pill_idle idle
        (unseen (pill, messageId) List.mem_cons_self)
        (digests (pill, messageId) List.mem_cons_self) env
      have later : ∀ entry ∈ rest,
          entry.2 ∉ (seenAfterHandling env.ble guardian.g2g.seenCache messageId).recent := by
        intro entry member held
        have other : entry.2 ≠ messageId := by
          intro same
          exact distinct.1 (List.mem_map.mpr ⟨entry, member, same⟩)
        rcases seen_after_handling_subset held with same | held
        · exact other same
        · exact unseen entry (List.mem_cons_of_mem _ member) held
      obtain ⟨final, finalFree, run⟩ := @induction
        ⟨⟨seenAfterHandling env.ble guardian.g2g.seenCache messageId, slots⟩,
          (processLocally crypto env guardian.core pill).2⟩ free
        (fun entry member => digests entry (List.mem_cons_of_mem _ member)) distinct.2 later
      refine ⟨final, finalFree, ?_⟩
      have split : deliveries env ((pill, messageId) :: rest) =
          pillReceptions pill messageId (fun _ => env) ++ deliveries env rest := rfl
      rw [split, runGuardian, EventMachine.run_append]
      change (runGuardian crypto (runGuardian crypto guardian
        (pillReceptions pill messageId fun _ => env)).1 (deliveries env rest)).1 = _
      rw [first, run, seenAfterHandling, if_pos relays]
      rfl

theorem process_pills {crypto : Crypto} {env : Environment}
    (pills : List (ActionPill × MessageId)) {core : Core} {pipeline : ActionPipeline}
    (present : core.pipeline = some pipeline)
    (digests : ∀ entry ∈ pills, computeCapsuleDigest crypto entry.1 = .ok entry.2)
    (distinct : (pills.map Prod.snd).Nodup)
    (unseen : ∀ entry ∈ pills, entry.2 ∉ pipeline.stomach.cpCache.recent) :
    (pills.foldl (fun core entry => (processLocally crypto env core entry.1).2) core).pipeline =
      some { pipeline with
        stomach := ⟨(pills.map Prod.snd).foldl Ring.add pipeline.stomach.cpCache⟩ } := by
  induction pills generalizing core pipeline with
  | nil => simpa using present
  | cons entry rest induction =>
      obtain ⟨pill, digest⟩ := entry
      rw [List.map_cons, List.nodup_cons] at distinct
      have processed := @process_action_pill_unseen crypto env pipeline pill digest
        (digests (pill, digest) List.mem_cons_self) (unseen (pill, digest) List.mem_cons_self)
      have next : (processLocally crypto env core pill).2.pipeline =
          some { pipeline with stomach := ⟨pipeline.stomach.cpCache.add digest⟩ } := by
        simp only [processLocally, present, processed]
      rw [List.foldl_cons, induction next
        (fun entry member => digests entry (List.mem_cons_of_mem _ member)) distinct.2]
      · rfl
      · intro entry member held
        rcases Ring.recent_add_subset _ _ _ held with same | held
        · exact distinct.1 (List.mem_map.mpr ⟨entry, member, same⟩)
        · exact unseen entry (List.mem_cons_of_mem _ member) held

/-- Sixteen new pills that are relayed make a Guardian forget every other id,
in both caches. -/
theorem flood_forgets {crypto : Crypto} {env : Environment} (relays : env.ble.takes 3 = true)
    {pills : List (ActionPill × MessageId)} (sixteen : pills.length = 16) {guardian : Guardian}
    (idle : Idle guardian) {pipeline : ActionPipeline}
    (present : guardian.core.pipeline = some pipeline)
    (digests : ∀ entry ∈ pills, computeInnerId crypto entry.1 = .ok entry.2)
    (distinct : (pills.map Prod.snd).Nodup)
    (unseen : ∀ entry ∈ pills, entry.2 ∉ guardian.g2g.seenCache.recent)
    (undigested : ∀ entry ∈ pills, entry.2 ∉ pipeline.stomach.cpCache.recent) :
    Idle (runGuardian crypto guardian (deliveries env pills)).1 ∧
      (∀ messageId, messageId ∉ pills.map Prod.snd → messageId ∉
        (runGuardian crypto guardian (deliveries env pills)).1.g2g.seenCache.recent) ∧
      ∃ stomach, (runGuardian crypto guardian (deliveries env pills)).1.core.pipeline =
          some { pipeline with stomach := stomach } ∧
        ∀ digest, digest ∉ pills.map Prod.snd → digest ∉ stomach.cpCache.recent := by
  obtain ⟨slots, free, run⟩ := deliver_pills relays pills idle digests distinct unseen
  have processed := @process_pills crypto env pills guardian.core pipeline present digests
    distinct undigested
  rw [run]
  refine ⟨free, ?_, _, processed, ?_⟩
  · intro messageId absent held
    have member := Ring.recent_overwritten (by simp [g2gSeenCacheSize, sixteen]) held
    obtain ⟨entry, isEntry, same⟩ := List.mem_flatMap.mp member
    apply absent
    apply List.mem_map.mpr
    exact ⟨entry, isEntry, by simpa [eq_comm] using same⟩
  · intro digest absent held
    exact absent (Ring.recent_overwritten (by simp [stomachCpCacheSize, sixteen]) held)

/-- Whatever a Guardian publishes for a pill it publishes again, once sixteen
other pills were relayed in between. -/
theorem flooded_replay {crypto : Crypto} {env : Environment} (relays : env.ble.takes 3 = true)
    {guardian : Guardian} (idle : Idle guardian) {pipeline : ActionPipeline}
    (present : guardian.core.pipeline = some pipeline) {pill : ActionPill} {messageId : MessageId}
    (digest : computeCapsuleDigest crypto pill = .ok messageId) {result : Result Unit}
    {publications : List Publication}
    (published : pipeline.digestAndPublish crypto env pill = (result, publications))
    {others : List (ActionPill × MessageId)} (sixteen : others.length = 16)
    (digests : ∀ entry ∈ others, computeInnerId crypto entry.1 = .ok entry.2)
    (distinct : (messageId :: others.map Prod.snd).Nodup)
    (unseen : ∀ id ∈ messageId :: others.map Prod.snd, id ∉ guardian.g2g.seenCache.recent)
    (undigested : ∀ id ∈ messageId :: others.map Prod.snd,
      id ∉ pipeline.stomach.cpCache.recent) :
    ∀ publication ∈ publications,
      Event.published publication ∈ (runGuardian crypto guardian
        (pillReceptions pill messageId fun _ => env)).2 ∧
      Event.published publication ∈ (runGuardian crypto (runGuardian crypto
        (runGuardian crypto guardian (pillReceptions pill messageId fun _ => env)).1
          (deliveries env others)).1 (pillReceptions pill messageId fun _ => env)).2 := by
  obtain ⟨fresh, apart⟩ := List.nodup_cons.mp distinct
  have other : ∀ entry ∈ others, entry.2 ∈ others.map Prod.snd ∧ entry.2 ≠ messageId := by
    intro entry member
    have listed : entry.2 ∈ others.map Prod.snd := List.mem_map_of_mem member
    exact ⟨listed, fun same => fresh (same ▸ listed)⟩
  obtain ⟨slots, sent, free, first⟩ := deliver_published idle present
    (unseen _ List.mem_cons_self) (undigested _ List.mem_cons_self) digest published
  rw [first]
  obtain ⟨idleAgain, forgotten, stomach, presentAgain, undigestedAgain⟩ := @flood_forgets crypto env
    relays others sixteen ⟨⟨seenAfterHandling env.ble guardian.g2g.seenCache messageId, slots⟩,
      ⟨some { pipeline with stomach := ⟨pipeline.stomach.cpCache.add messageId⟩ },
        guardian.core.currentState⟩⟩ free _ rfl digests apart
    (by
      intro entry member held
      rcases seen_after_handling_subset held with same | held
      · exact (other entry member).2 same
      · exact unseen _ (List.mem_cons_of_mem _ (other entry member).1) held)
    (by
      intro entry member held
      rcases Ring.recent_add_subset _ _ _ held with same | held
      · exact (other entry member).2 same
      · exact undigested _ (List.mem_cons_of_mem _ (other entry member).1) held)
  obtain ⟨slotsAgain, sentAgain, -, again⟩ := @deliver_published crypto env _ _ _ _ _ _ idleAgain
    presentAgain (forgotten _ fresh) (undigestedAgain _ fresh) digest published
  intro publication member
  rw [again]
  exact ⟨by simp [member], by simp [member]⟩

end BlindNet
