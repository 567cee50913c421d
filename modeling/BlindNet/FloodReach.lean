import BlindNet.Flooding
import BlindNet.Interleaving
import BlindNet.Lib.Flood

/-!
# Flooding reaches every Guardian

Clients inject the frames of up to four pills into a network of Guardians, over links
that repeat and reorder frames but lose none, and every relay finds room in the
transmit queue. Once the run has settled, the Guardians that a chain of links connects
to a client have handled each pill exactly once, and the others have done nothing.
-/

namespace BlindNet

set_option autoImplicit false

open ByteLayout RecencyRing MessageNetwork

section Frames

variable {count : Nat} (pills : Fin count → ActionPill) (ids : Fin count → MessageId)

def PillFrame (frame : Bytes) : Prop :=
  ∃ which index, index < 3 ∧ frame = pillFrame (pills which) (ids which) index

/-- The frames of each pill among those that arrived. -/
def receivedFrames (arrived : List Bytes) (which : Fin count) : Finset Nat :=
  (Finset.range 3).filter fun index => pillFrame (pills which) (ids which) index ∈ arrived

variable {pills ids}

theorem pill_frame_unique (distinct : Function.Injective ids) {which other : Fin count}
    {index next : Nat} (inside : index < 3) (nextInside : next < 3)
    (same : pillFrame (pills which) (ids which) index =
      pillFrame (pills other) (ids other) next) : which = other ∧ index = next := by
  have sameIds := congrArg frameMessageId same
  rw [pill_frame_id, pill_frame_id] at sameIds
  have sameWhich := distinct sameIds
  subst sameWhich
  refine ⟨rfl, ?_⟩
  exact List.inj_on_of_nodup_map (pill_frames_nodup (pills which) (ids which))
    (List.mem_range.mpr inside) (List.mem_range.mpr nextInside) same

theorem mem_received_frames {arrived : List Bytes} {which : Fin count} {index : Nat} :
    index ∈ receivedFrames pills ids arrived which ↔
      index < 3 ∧ pillFrame (pills which) (ids which) index ∈ arrived := by
  rw [receivedFrames, Finset.mem_filter, Finset.mem_range]

theorem received_frames_nil : receivedFrames pills ids [] = fun _ => ∅ := by
  funext which
  simp [receivedFrames]

theorem received_frames_append (distinct : Function.Injective ids) (arrived : List Bytes)
    (which : Fin count) {index : Nat} (inside : index < 3) :
    receivedFrames pills ids (arrived ++ [pillFrame (pills which) (ids which) index]) =
      extend (receivedFrames pills ids arrived) which index := by
  funext other
  ext next
  rw [mem_received_frames, List.mem_append, List.mem_singleton]
  by_cases same : other = which
  · subst same
    rw [extend_self, Finset.mem_insert, mem_received_frames]
    constructor
    · rintro ⟨nextInside, before | now⟩
      · exact Or.inr ⟨nextInside, before⟩
      · exact Or.inl (pill_frame_unique distinct nextInside inside now).2
    · rintro (rfl | ⟨nextInside, before⟩)
      · exact ⟨inside, Or.inr rfl⟩
      · exact ⟨nextInside, Or.inl before⟩
  · rw [extend_other same, mem_received_frames]
    constructor
    · rintro ⟨nextInside, before | now⟩
      · exact ⟨nextInside, before⟩
      · exact absurd (pill_frame_unique distinct nextInside inside now).1 same
    · rintro ⟨nextInside, before⟩
      exact ⟨nextInside, Or.inl before⟩

end Frames

/-- What a Guardian has done with the frames that arrived: all are frames of the pills, they
are gathered, and the frames of every complete pill were relayed. -/
structure FloodState {count : Nat} (pills : Fin count → ActionPill)
    (ids : Fin count → MessageId) (arrived : List (Bytes × Environment)) (guardian : Guardian)
    (events : List Event) : Prop where
  known : ∀ item ∈ arrived, PillFrame pills ids item.1
  gathered : Interleaved pills ids (receivedFrames pills ids (arrived.map Prod.fst)) guardian
    events
  relayed : ∀ which ∈ finished (receivedFrames pills ids (arrived.map Prod.fst)), ∀ index < 3,
    Event.relayed (pillFrame (pills which) (ids which) index) ∈ events

section Step

variable {crypto : Crypto} {count : Nat} {pills : Fin count → ActionPill}
  {ids : Fin count → MessageId}

theorem pills_injective (distinct : Function.Injective ids)
    (digests : ∀ which, computeInnerId crypto (pills which) = .ok (ids which)) :
    Function.Injective pills := by
  intro first second same
  apply distinct
  have digest := digests first
  rw [same, digests second, Except.ok.injEq] at digest
  exact digest.symm

theorem handled_is_known {later : Fin count → Finset Nat} {guardian : Guardian}
    {events : List Event} {reception : Reception} {pill : ActionPill} {messageId : MessageId}
    (digests : ∀ which, computeInnerId crypto (pills which) = .ok (ids which))
    (after : Interleaved pills ids later (onFragmentReceived crypto guardian reception).1
      (events ++ (onFragmentReceived crypto guardian reception).2))
    (handles : Handles crypto guardian reception pill messageId) :
    ∃ which, pills which = pill ∧ ids which = messageId := by
  have member : pill ∈ handledPills
      (events ++ (onFragmentReceived crypto guardian reception).2) := by
    rw [handled_pills_append, handles.handled_pills]
    exact List.mem_append_right _ (List.mem_singleton_self pill)
  rcases (after.exact pill).mp member with ⟨which, -, same⟩
  have digest := digests which
  rw [same, handles.digest, Except.ok.injEq] at digest
  exact ⟨which, same, digest.symm⟩

variable (few : count ≤ 4) (distinct : Function.Injective ids)
    (digests : ∀ which, computeInnerId crypto (pills which) = .ok (ids which))

include few distinct digests

theorem flood_step (arrived : List (Bytes × Environment)) (guardian : Guardian)
    (events : List Event)
    (frame : Bytes) (env : Environment) (isFrame : PillFrame pills ids frame)
    (takes : env.ble.takes 3 = true)
    (state : FloodState pills ids arrived guardian events) :
    FloodState pills ids (arrived ++ [(frame, env)])
      (onFragmentReceived crypto guardian ⟨frame, env⟩).1
      (events ++ (onFragmentReceived crypto guardian ⟨frame, env⟩).2) := by
  have known : ∀ item ∈ arrived ++ [(frame, env)], PillFrame pills ids item.1 := by
    intro item member
    rcases List.mem_append.mp member with before | now
    · exact state.known item before
    · rw [List.mem_singleton] at now
      rw [now]
      exact isFrame
  rcases isFrame with ⟨which, index, inside, rfl⟩
  have after := interleaved_step few distinct digests state.gathered which inside env
  rw [← received_frames_append distinct (arrived.map Prod.fst) which inside] at after
  have grown : (arrived ++ [(pillFrame (pills which) (ids which) index, env)]).map Prod.fst =
      arrived.map Prod.fst ++ [pillFrame (pills which) (ids which) index] := List.map_append
  rw [← grown] at after
  refine ⟨known, after, ?_⟩
  intro other isFinished position positionInside
  by_cases earlier : other ∈ finished (receivedFrames pills ids (arrived.map Prod.fst))
  · exact List.mem_append_left _ (state.relayed other earlier position positionInside)
  · -- The pill was completed by this frame, so it was handled now.
    have handled := (after.exact (pills other)).mpr ⟨other, isFinished, rfl⟩
    rw [handled_pills_append] at handled
    have now := (List.mem_append.mp handled).resolve_left
      (state.gathered.not_handled distinct digests earlier)
    rcases on_fragment_received_cases crypto guardian
        ⟨pillFrame (pills which) (ids which) index, env⟩ with quiet | ⟨pill, messageId, handles⟩
    · rw [quiet.events] at now
      exact absurd now List.not_mem_nil
    · rw [handles.handled_pills, List.mem_singleton] at now
      subst now
      have sameId := digests other
      rw [handles.digest, Except.ok.injEq] at sameId
      rcases handles.events with ⟨sent, -, whole, happened⟩
      rw [happened, whole takes, sameId]
      apply List.mem_append_right
      apply List.mem_cons_of_mem
      apply List.mem_append_left
      exact List.mem_map.mpr ⟨_, List.mem_map.mpr ⟨position, List.mem_range.mpr positionInside,
        rfl⟩, rfl⟩

theorem flood_replies (arrived : List (Bytes × Environment)) (guardian : Guardian)
    (events : List Event)
    (frame : Bytes) (env : Environment) (isFrame : PillFrame pills ids frame)
    (takes : env.ble.takes 3 = true)
    (state : FloodState pills ids arrived guardian events) :
    ∀ reply ∈ (onFragmentReceived crypto guardian ⟨frame, env⟩).2.filterMap relayedFrame,
      PillFrame pills ids reply := by
  intro reply member
  have after := flood_step few distinct digests arrived guardian events frame env isFrame takes
    state
  rcases on_fragment_received_cases crypto guardian ⟨frame, env⟩
    with quiet | ⟨pill, messageId, handles⟩
  · rw [quiet.events] at member
    exact absurd member List.not_mem_nil
  · rcases handled_is_known digests after.gathered handles with ⟨which, samePill, sameId⟩
    have own := handles.relayed_of.subset member
    rw [← samePill, ← sameId] at own
    rcases List.mem_map.mp own with ⟨index, inside, same⟩
    exact ⟨which, index, List.mem_range.mp inside, same.symm⟩

end Step

section Network

variable {crypto : Crypto} {Party : Type} [DecidableEq Party]
  {link : Option Party → Party → Bool} {count : Nat} {pills : Fin count → ActionPill}
  {ids : Fin count → MessageId}

def arrivedFrames (crypto : Crypto) (link : Option Party → Party → Bool)
    (network : GuardianNetwork Party) (actions : List (NetworkAction Party)) :
    List (Party × Bytes × Environment) :=
  arrivals link (fun guardian frame env => onFragmentReceived crypto guardian ⟨frame, env⟩)
    relayedFrame network actions

/-- Nothing is lost, only frames of the pills are injected, and the transmit queue of a
Guardian that receives a frame has room for a relay. -/
def Lossless (pills : Fin count → ActionPill) (ids : Fin count → MessageId) :
    NetworkAction Party → Prop :=
  Kept (PillFrame pills ids) fun env => env.ble.takes 3 = true

/-- A Guardian that can take the pills in: their ids are new to it, and there is a slot
for each. -/
structure TakesIn (ids : Fin count → MessageId) (guardian : Guardian) : Prop where
  unseen : ∀ which, ids which ∉ guardian.g2g.seenCache.recent
  absent : ∀ which slot, ¬ (guardian.g2g.rxSlots slot).HeldFor (ids which)
  free : count ≤ (freeSlots guardian.g2g.rxSlots).card

theorem TakesIn.few {guardian : Guardian} (takesIn : TakesIn ids guardian) : count ≤ 4 := by
  have slots := Finset.card_le_univ (freeSlots guardian.g2g.rxSlots)
  rw [Fintype.card_fin] at slots
  exact le_trans takesIn.free slots

theorem none_finished : finished (fun _ : Fin count => (∅ : Finset Nat)) = ∅ := by
  apply Finset.eq_empty_of_forall_notMem
  intro pill member
  exact absurd (mem_finished.mp member) (by decide)

theorem TakesIn.flood_state {guardian : Guardian} (takesIn : TakesIn ids guardian) :
    FloodState pills ids [] guardian [] := by
  constructor
  · exact fun item member => absurd member List.not_mem_nil
  · rw [List.map_nil, received_frames_nil]
    exact interleaved_start takesIn.unseen takesIn.absent takesIn.free
  · rw [List.map_nil, received_frames_nil, none_finished]
    intro which member
    exact absurd member (Finset.notMem_empty which)

/-- The whole run, beside what arrived. -/
theorem flood_run {start : Party → Guardian} (takesIn : ∀ party, TakesIn ids (start party))
    (few : count ≤ 4) (distinct : Function.Injective ids)
    (digests : ∀ which, computeInnerId crypto (pills which) = .ok (ids which))
    {actions : List (NetworkAction Party)}
    (lossless : ∀ action ∈ actions, Lossless pills ids action) :
    Traced link relayedFrame (PillFrame pills ids) (FloodState pills ids)
      (runNetwork crypto link ⟨start, []⟩ actions).1
      (arrivedFrames crypto link ⟨start, []⟩ actions)
      (runNetwork crypto link ⟨start, []⟩ actions).2 := by
  have initial : Traced link relayedFrame (PillFrame pills ids) (FloodState pills ids)
      (⟨start, []⟩ : GuardianNetwork Party) [] [] := by
    constructor
    · exact fun entry member => absurd member List.not_mem_nil
    · exact fun party => (takesIn party).flood_state
    · exact fun party event member => absurd member List.not_mem_nil
    · exact fun party message member => absurd member List.not_mem_nil
    · exact fun party some_ => absurd rfl some_
  have run := traced_run link
    (fun guardian frame env => onFragmentReceived crypto guardian ⟨frame, env⟩) relayedFrame
    (flood_step few distinct digests) (flood_replies few distinct digests) actions lossless initial
  rwa [List.nil_append, List.nil_append] at run

theorem mem_finished_frames {arrived : List Bytes} {which : Fin count} :
    which ∈ finished (receivedFrames pills ids arrived) ↔
      ∀ index < 3, pillFrame (pills which) (ids which) index ∈ arrived := by
  rw [mem_finished]
  constructor
  · intro whole index inside
    have member := Finset.mem_range.mpr inside
    rw [← whole] at member
    exact (mem_received_frames.mp member).2
  · intro all
    ext index
    rw [mem_received_frames, Finset.mem_range]
    exact ⟨fun both => both.1, fun inside => ⟨inside, all index inside⟩⟩

/-- A Guardian that gathered every pill has handled each of them once. -/
theorem handled_perm {received : Fin count → Finset Nat} {guardian : Guardian}
    {events : List Event} (distinct : Function.Injective ids)
    (digests : ∀ which, computeInnerId crypto (pills which) = .ok (ids which))
    (gathered : Interleaved pills ids received guardian events)
    (whole : ∀ which, which ∈ finished received) :
    (handledPills events).Perm (List.ofFn pills) := by
  rw [List.perm_ext_iff_of_nodup gathered.once
    (List.nodup_ofFn.mpr (pills_injective distinct digests))]
  intro pill
  rw [gathered.exact, List.mem_ofFn]
  constructor
  · rintro ⟨which, -, same⟩
    exact ⟨which, same⟩
  · rintro ⟨which, same⟩
    exact ⟨which, whole which, same⟩

/-- A run in which clients inject every frame of the pills, nothing is lost, and all
frames have settled: a frame has settled at a Guardian when it has arrived there or its
id is already in the Guardian's seen cache. -/
structure SettledFlood (crypto : Crypto) (link : Option Party → Party → Bool)
    (start : Party → Guardian) (pills : Fin count → ActionPill) (ids : Fin count → MessageId)
    (actions : List (NetworkAction Party)) : Prop where
  digests : ∀ which, computeInnerId crypto (pills which) = .ok (ids which)
  distinct : Function.Injective ids
  takesIn : ∀ party, TakesIn ids (start party)
  lossless : ∀ action ∈ actions, Lossless pills ids action
  injected : ∀ which, ∀ index < 3,
    Action.inject (pillFrame (pills which) (ids which) index) ∈ actions
  settled : ∀ sender frame receiver,
    (sender, frame) ∈ (runNetwork crypto link ⟨start, []⟩ actions).1.inFlight →
    link sender receiver = true →
    frame ∈ (eventsOf receiver (arrivedFrames crypto link ⟨start, []⟩ actions)).map Prod.fst ∨
      frameMessageId frame ∈
        ((runNetwork crypto link ⟨start, []⟩ actions).1.states receiver).g2g.seenCache.recent

variable {start : Party → Guardian} {actions : List (NetworkAction Party)}

theorem SettledFlood.traced (flood : SettledFlood crypto link start pills ids actions)
    (party : Party) :
    Traced link relayedFrame (PillFrame pills ids) (FloodState pills ids)
      (runNetwork crypto link ⟨start, []⟩ actions).1
      (arrivedFrames crypto link ⟨start, []⟩ actions)
      (runNetwork crypto link ⟨start, []⟩ actions).2 :=
  flood_run flood.takesIn (flood.takesIn party).few flood.distinct flood.digests flood.lossless

theorem SettledFlood.finished (flood : SettledFlood crypto link start pills ids actions)
    {party : Party} (connected : Connected link party) (which : Fin count) :
    which ∈ finished (receivedFrames pills ids
      ((eventsOf party (arrivedFrames crypto link ⟨start, []⟩ actions)).map Prod.fst)) := by
  have traced := flood.traced party
  let arrivedAt := fun other : Party =>
    (eventsOf other (arrivedFrames crypto link ⟨start, []⟩ actions)).map Prod.fst
  have outside : ∀ frame, (∃ index < 3, frame = pillFrame (pills which) (ids which) index) →
      (none, frame) ∈ (runNetwork crypto link ⟨start, []⟩ actions).1.inFlight := by
    rintro frame ⟨index, inside, rfl⟩
    exact injected_flying link _ relayedFrame actions flood.lossless
      (Or.inl (flood.injected which index inside))
  have complete : ∀ other, (∀ frame, (∃ index < 3, frame = pillFrame (pills which) (ids which)
      index) → frame ∈ arrivedAt other) →
      which ∈ BlindNet.finished (receivedFrames pills ids (arrivedAt other)) := by
    intro other all
    exact mem_finished_frames.mpr fun index inside => all _ ⟨index, inside, rfl⟩
  have relays : ∀ other, which ∈ BlindNet.finished (receivedFrames pills ids (arrivedAt other)) →
      ∀ frame, (∃ index < 3, frame = pillFrame (pills which) (ids which) index) →
      (some other, frame) ∈ (runNetwork crypto link ⟨start, []⟩ actions).1.inFlight := by
    rintro other done frame ⟨index, inside, rfl⟩
    exact traced.relayed other _ ((traced.holds other).relayed which done index inside) _ rfl
  apply connected_done _ _ outside complete relays _ connected
  rintro sender frame receiver ⟨index, inside, rfl⟩ flying linked
  rcases flood.settled sender _ receiver flying linked with arrived | held
  · exact Or.inl arrived
  · -- An id that a Guardian has seen is the id of a pill it has finished.
    rw [pill_frame_id] at held
    apply Or.inr
    rw [mem_finished]
    by_contra waits
    exact ((traced.holds receiver).gathered.pending which waits).1 held

end Network

/-- In a lossless run that has settled each Guardian that is connected to a client has
handled every pill exactly once, and no other Guardian has handled any. -/
theorem flooding_reaches_connected (crypto : Crypto) {Party : Type} [DecidableEq Party]
    (link : Option Party → Party → Bool) (start : Party → Guardian) (count : Nat)
    (pills : Fin count → ActionPill) (ids : Fin count → MessageId)
    (actions : List (NetworkAction Party))
    (flood : SettledFlood crypto link start pills ids actions) (party : Party) :
    (Connected link party →
      (handledPills (eventsOf party (runNetwork crypto link ⟨start, []⟩ actions).2)).Perm
        (List.ofFn pills)) ∧
    (¬ Connected link party →
      handledPills (eventsOf party (runNetwork crypto link ⟨start, []⟩ actions).2) = []) := by
  have traced := flood.traced party
  constructor
  · intro connected
    exact handled_perm flood.distinct flood.digests (traced.holds party).gathered
      fun which => flood.finished connected which
  · intro apart
    have nothing : eventsOf party (arrivedFrames crypto link ⟨start, []⟩ actions) = [] := by
      by_contra some_
      exact apart (traced.receivers party some_)
    have gathered := (traced.holds party).gathered
    rw [nothing, List.map_nil, received_frames_nil] at gathered
    apply List.eq_nil_iff_forall_not_mem.mpr
    intro pill member
    rcases (gathered.exact pill).mp member with ⟨which, isFinished, -⟩
    rw [none_finished] at isFinished
    exact absurd isFinished (Finset.notMem_empty which)

def lampLink (sender : Option Bool) (receiver : Bool) : Bool := receiver == (sender != some true)

theorem lamp_link_connected (party : Bool) : Connected lampLink party := by
  have near : Connected lampLink true := .entry rfl
  cases party with
  | true => exact near
  | false => exact .hop near rfl

theorem lamp_guardian_takes_in {count : Nat} (few : count ≤ 4) (ids : Fin count → MessageId) :
    TakesIn ids lampGuardian := by
  constructor
  · intro which
    simp [lampGuardian, G2g.boot]
  · intro which slot held
    rw [RxSlot.HeldFor, lamp_guardian_idle slot] at held
    exact absurd held.1 (by decide)
  · rw [freeSlots, Finset.filter_true_of_mem fun slot _ => lamp_guardian_idle slot,
      Finset.card_univ, Fintype.card_fin]
    exact few

/-- The first frames of all pills, then the second ones, and so on. -/
def interleavedFrames {count : Nat} (pills : Fin count → ActionPill) (ids : Fin count → MessageId) :
    List Bytes :=
  (List.range 3).flatMap fun index =>
    (List.finRange count).map fun which => pillFrame (pills which) (ids which) index

theorem mem_interleaved_frames {count : Nat} {pills : Fin count → ActionPill}
    {ids : Fin count → MessageId} {frame : Bytes} :
    frame ∈ interleavedFrames pills ids ↔ PillFrame pills ids frame := by
  simp only [interleavedFrames, List.mem_flatMap, List.mem_range, List.mem_map,
    List.mem_finRange, true_and, PillFrame]
  constructor
  · rintro ⟨index, inside, which, same⟩
    exact ⟨which, index, inside, same.symm⟩
  · rintro ⟨which, index, inside, same⟩
    exact ⟨index, inside, which, same.symm⟩

theorem flood_of_settled {count : Nat} {pills : Fin count → ActionPill}
    {ids : Fin count → MessageId} {env : Environment} (few : count ≤ 4)
    (digests : ∀ which, computeInnerId benchCrypto (pills which) = .ok (ids which))
    (distinct : Function.Injective ids) (takes : env.ble.takes 3 = true)
    (arrived : ∀ frame ∈ interleavedFrames pills ids, ∀ receiver,
      frame ∈ (eventsOf receiver (arrivedFrames benchCrypto lampLink
        ⟨fun _ => lampGuardian, []⟩ (floodOf env (interleavedFrames pills ids)))).map Prod.fst) :
    SettledFlood benchCrypto lampLink (fun _ => lampGuardian) pills ids
      (floodOf env (interleavedFrames pills ids)) := by
  have takesIn : ∀ _ : Bool, TakesIn ids lampGuardian := fun _ => lamp_guardian_takes_in few ids
  have lossless : ∀ action ∈ floodOf env (interleavedFrames pills ids),
      Lossless pills ids action := by
    intro action member
    simp only [floodOf, List.mem_append, List.mem_flatMap, List.mem_cons, List.not_mem_nil,
      or_false] at member
    rcases member with ⟨frame, own, rfl | rfl | rfl⟩ | ⟨frame, own, rfl | rfl⟩
    · exact mem_interleaved_frames.mp own
    all_goals exact takes
  refine ⟨digests, distinct, takesIn, lossless, ?_, ?_⟩
  · intro which index inside
    apply List.mem_append_left
    exact List.mem_flatMap.mpr ⟨_, mem_interleaved_frames.mpr ⟨which, index, inside, rfl⟩,
      List.mem_cons_self⟩
  · intro sender frame receiver flying _
    have own := (flood_run takesIn few distinct digests lossless).flying _ flying
    exact Or.inl (arrived frame (mem_interleaved_frames.mpr own) receiver)

theorem flood_of_env {env : Environment} {frames : List Bytes} {party : Bool}
    {item : Bytes × Environment}
    (arrived : item ∈ eventsOf party (arrivedFrames benchCrypto lampLink
      ⟨fun _ => lampGuardian, []⟩ (floodOf env frames))) : item.2 = env := by
  obtain ⟨sender, member⟩ := arrived_delivered _ _ _ arrived
  simp only [floodOf, List.mem_append, List.mem_flatMap, List.mem_cons, List.not_mem_nil,
    or_false, reduceCtorEq, Action.deliver.injEq, false_or] at member
  rcases member with ⟨frame, -, delivered⟩ | ⟨frame, -, delivered⟩
  all_goals exact delivered.elim (fun same => same.2.2.2) (fun same => same.2.2.2)

def lampOnBuild : PillTools.ActionPillBuild :=
  (PillTools.buildActionPill benchClient ⟨List.Vector.replicate 12 8, List.Vector.replicate 16 9⟩
    { lampArguments with amino := "ON" }).toOption.getD lampBuild

def lampPills : Fin 2 → ActionPill
  | 0 => lampPill
  | 1 => ActionPill.layout.decode lampOnBuild.actionPill

def lampIds : Fin 2 → MessageId
  | 0 => lampBuild.messageId
  | 1 => lampOnBuild.messageId

def lampsFlood : List (NetworkAction Bool) :=
  floodOf benchEnvironment (interleavedFrames lampPills lampIds)

theorem lamps_flood_settled :
    SettledFlood benchCrypto lampLink (fun _ => lampGuardian) lampPills lampIds lampsFlood :=
  flood_of_settled (by decide) (by decide +kernel) (pair_injective (by decide +kernel)) (by decide)
    (by decide +kernel)

theorem lamp_flood_reaches :
    (handledPills (eventsOf false (runNetwork benchCrypto lampLink ⟨fun _ => lampGuardian, []⟩
      lampsFlood).2)).Perm [lampPill, ActionPill.layout.decode lampOnBuild.actionPill] :=
  (flooding_reaches_connected benchCrypto lampLink (fun _ => lampGuardian) 2 lampPills lampIds
    lampsFlood lamps_flood_settled false).1 (lamp_link_connected false)

end BlindNet
