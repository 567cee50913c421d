import BlindNet.FloodReach

/-!
# Publications do not depend on the schedule

A Guardian that receives the frames of up to four pills, in any order and with any
repetitions, digests each pill once, by itself: what is published is what each pill
leads to on the Guardian as it was at the start, at the time of the frame that
completed it. In a network this holds of every Guardian the pills reach.
-/

namespace BlindNet

set_option autoImplicit false

open ByteLayout RecencyRing MessageNetwork

theorem publications_of_append (earlier later : List Event) :
    publicationsOf (earlier ++ later) = publicationsOf earlier ++ publicationsOf later :=
  List.filterMap_append

theorem publications_of_handling (pill : ActionPill) (sent : List Bytes)
    (publications : List Publication) :
    publicationsOf (.handled pill ::
      (sent.map Event.relayed ++ publications.map Event.published)) = publications := by
  simp [publicationsOf, List.filterMap_append, List.filterMap_map]

section Log

variable (crypto : Crypto) (pipeline : ActionPipeline) {count : Nat}
  (pills : Fin count → ActionPill) (ids : Fin count → MessageId)

/-- What the pills of a log lead to, each on the pipeline of the start. -/
def digestedAlone (log : List (Fin count × Environment)) : List Publication :=
  log.flatMap fun entry => (pipeline.digestAndPublish crypto entry.2 (pills entry.1)).2

/-- The pills handled so far, with the environments of their last frames, account for
the publications; of the pipeline only the capsule cache has changed, and it holds no
id of a pill that is still to come. -/
structure Logged (log : List (Fin count × Environment)) (guardian : Guardian)
    (events : List Event) : Prop where
  handled : handledPills events = log.map fun entry => pills entry.1
  published : publicationsOf events = digestedAlone crypto pipeline pills log
  kept : ∃ stomach, guardian.core.pipeline = some { pipeline with stomach := stomach } ∧
    ∀ which, ids which ∈ stomach.cpCache.recent → which ∈ log.map Prod.fst

variable {crypto pipeline pills ids}

theorem process_locally_alone {env : Environment} {core : Core} {pill : ActionPill}
    {messageId : MessageId} {stomach : Stomach}
    (holds : core.pipeline = some { pipeline with stomach := stomach })
    (digest : computeCapsuleDigest crypto pill = .ok messageId)
    (unseen : messageId ∉ stomach.cpCache.recent) :
    processLocally crypto env core pill =
      (pipeline.digestAndPublish crypto env pill,
        { core with
          pipeline := some { pipeline with stomach := ⟨stomach.cpCache.add messageId⟩ } }) := by
  have processed := @process_action_pill_unseen crypto env { pipeline with stomach := stomach }
    pill messageId digest unseen
  simp only [processLocally, holds, processed]
  rfl

section Frames

variable (few : count ≤ 4) (distinct : Function.Injective ids)
    (digests : ∀ which, computeInnerId crypto (pills which) = .ok (ids which))

include few distinct digests

theorem Logged.step {log : List (Fin count × Environment)} {guardian : Guardian}
    {events : List Event} {received : Fin count → Finset Nat} {which : Fin count} {index : Nat}
    {env : Environment} (logged : Logged crypto pipeline pills ids log guardian events)
    (interleaved : Interleaved pills ids received guardian events) (inside : index < 3) :
    ∃ more, (more = [] ∨ more = [(which, env)]) ∧
      Logged crypto pipeline pills ids (log ++ more)
        (onFragmentReceived crypto guardian ⟨pillFrame (pills which) (ids which) index, env⟩).1
        (events ++ (onFragmentReceived crypto guardian
          ⟨pillFrame (pills which) (ids which) index, env⟩).2) := by
  have after := interleaved_step few distinct digests interleaved which inside env
  rcases on_fragment_received_cases crypto guardian
      ⟨pillFrame (pills which) (ids which) index, env⟩ with quiet | ⟨pill, messageId, handles⟩
  · refine ⟨[], Or.inl rfl, ?_⟩
    rw [quiet.events, List.append_nil, List.append_nil]
    exact ⟨logged.handled, logged.published, quiet.core ▸ logged.kept⟩
  · rcases handled_is_known digests after handles with ⟨known, rfl, rfl⟩
    -- The frame belongs to the pill it completes.
    have same : known = which := by
      apply distinct
      rw [carried_id_frame handles.carried, pill_frame_id]
    subst same
    rcases logged.kept with ⟨stomach, holds, cached⟩
    have fresh : pills known ∉ handledPills events := by
      have once := after.once
      rw [handled_pills_append, handles.handled_pills] at once
      intro before
      exact (List.nodup_append.mp once).2.2 _ before _ (List.mem_singleton_self _) rfl
    have unseen : ids known ∉ stomach.cpCache.recent := by
      intro member
      apply fresh
      rw [logged.handled]
      rcases List.mem_map.mp (cached known member) with ⟨entry, isEntry, named⟩
      exact List.mem_map.mpr ⟨entry, isEntry, by rw [named]⟩
    have local_ := @process_locally_alone crypto pipeline env _ _ _ _ holds (digests known) unseen
    rcases handles.events with ⟨sent, -, -, happened⟩
    refine ⟨[(known, env)], Or.inr rfl, ?_, ?_, ?_⟩
    · rw [handled_pills_append, handles.handled_pills, logged.handled, List.map_append]
      rfl
    · rw [publications_of_append, happened, publications_of_handling, local_, logged.published,
        digestedAlone, digestedAlone, List.flatMap_append, List.flatMap_singleton]
    · refine ⟨⟨stomach.cpCache.add (ids known)⟩, by rw [handles.core, local_], ?_⟩
      intro other member
      rw [List.map_append, List.mem_append]
      rcases Ring.recent_add_subset _ _ _ member with newest | before
      · exact Or.inr (List.mem_singleton.mpr (distinct newest))
      · exact Or.inl (cached other before)

theorem logged_run {log : List (Fin count × Environment)} {guardian : Guardian}
    {events : List Event}
    {received : Fin count → Finset Nat} (order : List (Fin count × Fin 3 × Environment))
    (interleaved : Interleaved pills ids received guardian events)
    (logged : Logged crypto pipeline pills ids log guardian events) :
    ∃ more, (∀ entry ∈ more, ∃ index, (entry.1, index, entry.2) ∈ order) ∧
      Logged crypto pipeline pills ids (log ++ more)
        (runGuardian crypto guardian (order.map (frameOf pills ids))).1
        (events ++ (runGuardian crypto guardian (order.map (frameOf pills ids))).2) := by
  induction order generalizing guardian events received log with
  | nil =>
      refine ⟨[], fun entry member => absurd member List.not_mem_nil, ?_⟩
      rw [List.append_nil, List.map_nil, runGuardian, EventMachine.run_nil, List.append_nil]
      exact logged
  | cons entry rest induction =>
      rcases entry with ⟨which, index, env⟩
      have stepped := interleaved_step few distinct digests interleaved which index.isLt env
      rcases @Logged.step crypto pipeline count pills ids few distinct digests log guardian events
          received which index env logged interleaved index.isLt with ⟨first, here, loggedFirst⟩
      rcases induction stepped loggedFirst with ⟨later, origins, final⟩
      refine ⟨first ++ later, ?_, ?_⟩
      · intro other member
        rcases List.mem_append.mp member with now | afterwards
        · rcases here with rfl | rfl
          · exact absurd now List.not_mem_nil
          · rw [List.mem_singleton] at now
            subst now
            exact ⟨index, List.mem_cons_self⟩
        · rcases origins other afterwards with ⟨position, occurs⟩
          exact ⟨position, List.mem_cons_of_mem _ occurs⟩
      · rw [List.append_assoc, List.append_assoc] at final
        exact final

end Frames

/-- A log in which each pill occurs once, put into the order of the pills. -/
theorem log_in_order {log : List (Fin count × Environment)}
    (each : (log.map Prod.fst).Perm (List.finRange count)) :
    ∃ envs : Fin count → Environment, (∀ which, (which, envs which) ∈ log) ∧
      log.Perm ((List.finRange count).map fun which => (which, envs which)) := by
  have occurs : ∀ which, ∃ env, (which, env) ∈ log := by
    intro which
    rcases List.mem_map.mp (each.mem_iff.mpr (List.mem_finRange which)) with ⟨entry, member, same⟩
    exact ⟨entry.2, by rw [← same]; exact member⟩
  choose envs logged using occurs
  have once : (log.map Prod.fst).Nodup := each.nodup_iff.mpr (List.nodup_finRange count)
  have listed : ((List.finRange count).map fun which => (which, envs which)).Nodup := by
    apply List.Nodup.of_map Prod.fst
    rw [List.map_map]
    simpa [Function.comp_def] using List.nodup_finRange count
  refine ⟨envs, logged, ?_⟩
  rw [List.perm_ext_iff_of_nodup once.of_map listed]
  intro entry
  constructor
  · intro member
    have same := List.inj_on_of_nodup_map once member (logged entry.1) rfl
    exact List.mem_map.mpr ⟨entry.1, List.mem_finRange _, same.symm⟩
  · intro member
    rcases List.mem_map.mp member with ⟨which, -, rfl⟩
    exact logged which

/-- The publications of a Guardian that received every frame of the pills. -/
theorem publications_schedule_free {guardian : Guardian} (takesIn : TakesIn ids guardian)
    (distinct : Function.Injective ids)
    (digests : ∀ which, computeInnerId crypto (pills which) = .ok (ids which))
    (holds : guardian.core.pipeline = some pipeline)
    (new : ∀ which, ids which ∉ pipeline.stomach.cpCache.recent)
    (order : List (Fin count × Fin 3 × Environment))
    (complete : ∀ which index, ∃ env, (which, index, env) ∈ order) :
    ∃ envs : Fin count → Environment, (∀ which, ∃ index, (which, index, envs which) ∈ order) ∧
      (publicationsOf (runGuardian crypto guardian (order.map (frameOf pills ids))).2).Perm
        (digestedAlone crypto pipeline pills
          ((List.finRange count).map fun which => (which, envs which))) := by
  have start := @interleaved_start count pills ids guardian takesIn.unseen takesIn.absent
    takesIn.free
  have logged : Logged crypto pipeline pills ids [] guardian [] :=
    ⟨rfl, rfl, pipeline.stomach, holds, fun which member => absurd member (new which)⟩
  rcases interleaved_run takesIn.few distinct digests order start
    with ⟨later, -, collected, gathered⟩
  rcases logged_run takesIn.few distinct digests order start logged with ⟨log, origins, final⟩
  rw [List.nil_append] at gathered
  rw [List.nil_append, List.nil_append] at final
  have whole : ∀ which, which ∈ finished later := by
    intro which
    rw [mem_finished]
    apply Finset.Subset.antisymm (gathered.within which)
    intro index member
    rcases complete which ⟨index, Finset.mem_range.mp member⟩ with ⟨env, occurs⟩
    exact collected _ occurs
  have each : (log.map Prod.fst).Perm (List.finRange count) := by
    have handled := handled_perm distinct digests gathered whole
    rw [final.handled, List.ofFn_eq_map] at handled
    have mapped : (log.map Prod.fst).map pills = log.map fun entry => pills entry.1 :=
      List.map_map
    rw [← mapped] at handled
    exact (List.map_perm_map_iff (pills_injective distinct digests)).mp handled
  rcases log_in_order each with ⟨envs, member, ordered⟩
  refine ⟨envs, fun which => origins _ (member which), ?_⟩
  rw [final.published]
  exact ordered.flatMap_right _

end Log

theorem pill_frames_order {count : Nat} {pills : Fin count → ActionPill}
    {ids : Fin count → MessageId} (arrived : List (Bytes × Environment))
    (known : ∀ item ∈ arrived, PillFrame pills ids item.1) :
    ∃ order : List (Fin count × Fin 3 × Environment),
      order.map (fun entry => ((frameOf pills ids entry).frame, entry.2.2)) = arrived := by
  induction arrived with
  | nil => exact ⟨[], rfl⟩
  | cons item rest induction =>
      rcases known item List.mem_cons_self with ⟨which, index, inside, frame⟩
      rcases induction fun other member => known other (List.mem_cons_of_mem _ member)
        with ⟨order, same⟩
      refine ⟨(which, ⟨index, inside⟩, item.2) :: order, ?_⟩
      rw [List.map_cons, same]
      exact congrArg (· :: rest) (Prod.ext frame.symm rfl)

/-- In a settled flood a connected Guardian runs over the frames of the pills in some
order, in which every frame occurs. -/
theorem SettledFlood.order {crypto : Crypto} {Party : Type} [DecidableEq Party]
    {link : Option Party → Party → Bool} {start : Party → Guardian} {count : Nat}
    {pills : Fin count → ActionPill} {ids : Fin count → MessageId}
    {actions : List (NetworkAction Party)}
    (flood : SettledFlood crypto link start pills ids actions) {party : Party}
    (connected : Connected link party) :
    ∃ order : List (Fin count × Fin 3 × Environment),
      order.map (fun entry => ((frameOf pills ids entry).frame, entry.2.2)) =
        eventsOf party (arrivedFrames crypto link ⟨start, []⟩ actions) ∧
      (∀ which index, ∃ env, (which, index, env) ∈ order) ∧
      (runGuardian crypto (start party) (order.map (frameOf pills ids))).2 =
        eventsOf party (runNetwork crypto link ⟨start, []⟩ actions).2 := by
  rcases pill_frames_order _ ((flood.traced party).holds party).known with ⟨order, same⟩
  refine ⟨order, same, ?_, ?_⟩
  · intro which index
    have all := mem_finished_frames.mp (flood.finished connected which) index index.isLt
    rw [← same, List.map_map] at all
    rcases List.mem_map.mp all with ⟨entry, member, frame⟩
    rcases pill_frame_unique flood.distinct entry.2.1.isLt index.isLt frame
      with ⟨sameWhich, sameIndex⟩
    refine ⟨entry.2.2, ?_⟩
    rw [← sameWhich, ← Fin.ext sameIndex]
    exact member
  · -- in the network the Guardian runs over what arrived at it
    have projected := run_party link
      (fun guardian frame env => onFragmentReceived crypto guardian ⟨frame, env⟩) relayedFrame
      party (⟨start, []⟩ : GuardianNetwork Party) actions
    change EventMachine.run _ _ (eventsOf party (arrivedFrames crypto link ⟨start, []⟩ actions)) =
      _ at projected
    rw [← same, EventMachine.run_map] at projected
    rw [runGuardian, EventMachine.run_map]
    exact congrArg Prod.snd projected

/-- In a settled flood every connected Guardian publishes, in some order, exactly what
each pill leads to on its own pipeline of the start, at the time of the frame that
completed it: once for each pill, whatever the schedule. -/
theorem network_publishes_each_pill_once (crypto : Crypto) {Party : Type} [DecidableEq Party]
    (link : Option Party → Party → Bool) (start : Party → Guardian) (count : Nat)
    (pills : Fin count → ActionPill) (ids : Fin count → MessageId)
    (actions : List (NetworkAction Party))
    (flood : SettledFlood crypto link start pills ids actions) (party : Party)
    (connected : Connected link party) (pipeline : ActionPipeline)
    (holds : (start party).core.pipeline = some pipeline)
    (new : ∀ which, ids which ∉ pipeline.stomach.cpCache.recent) :
    ∃ envs : Fin count → Environment,
      (∀ which, ∃ index < 3, (pillFrame (pills which) (ids which) index, envs which) ∈
        eventsOf party (arrivedFrames crypto link ⟨start, []⟩ actions)) ∧
      (publicationsOf (eventsOf party (runNetwork crypto link ⟨start, []⟩ actions).2)).Perm
        (digestedAlone crypto pipeline pills
          ((List.finRange count).map fun which => (which, envs which))) := by
  rcases flood.order connected with ⟨order, same, complete, run⟩
  rcases publications_schedule_free (flood.takesIn party) flood.distinct flood.digests holds new
    order complete with ⟨envs, origins, published⟩
  refine ⟨envs, ?_, ?_⟩
  · intro which
    rcases origins which with ⟨index, member⟩
    refine ⟨index, index.isLt, ?_⟩
    rw [← same]
    exact List.mem_map.mpr ⟨(which, index, envs which), member, rfl⟩
  · rw [run] at published
    exact published

theorem lamp_network_publishes :
    (publicationsOf (eventsOf false (runNetwork benchCrypto lampLink ⟨fun _ => lampGuardian, []⟩
      lampsFlood).2)).Perm [lampPublication, lampPublication] := by
  rcases network_publishes_each_pill_once benchCrypto lampLink (fun _ => lampGuardian) 2
      lampPills lampIds lampsFlood lamps_flood_settled false (lamp_link_connected false)
      lampPipeline rfl (by simp [lampPipeline, Stomach.new])
    with ⟨envs, origins, published⟩
  have bench : envs = fun _ => benchEnvironment := by
    funext which
    rcases origins which with ⟨index, -, arrived⟩
    exact flood_of_env arrived
  have alone : digestedAlone benchCrypto lampPipeline lampPills
      ((List.finRange 2).map fun which => (which, benchEnvironment)) =
        [lampPublication, lampPublication] := by
    decide +kernel
  rw [bench, alone] at published
  exact published

end BlindNet
