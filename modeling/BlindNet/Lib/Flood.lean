import BlindNet.Lib.Network

/-!
# Flooding

Beside a run of a network stand the messages that arrived at each party, and what a
party does in the network is its own run over them. One rule lifts what a party
preserves, as a fact about what arrived at it, to a run in which nothing is lost; there
what a party sent stays in flight, and only parties that the links connect to the
outside world take part.

When a run has settled, every message in flight has arrived wherever a link leads it.
A group of messages that each party passes on once it has all of it has then reached
every connected party.
-/

namespace MessageNetwork

set_option autoImplicit false

variable {Party Message Context State Event : Type}

/-- The parties that a chain of links connects to the outside world. -/
inductive Connected (link : Option Party → Party → Bool) : Party → Prop where
  | entry {party : Party} (direct : link none party = true) : Connected link party
  | hop {party next : Party} (earlier : Connected link party)
      (linked : link (some party) next = true) : Connected link next

section Arrivals

variable [DecidableEq Party] (link : Option Party → Party → Bool)
  (receive : State → Message → Context → State × List Event) (sent : Event → Option Message)

local instance flyingLawful [DecidableEq Message] : LawfulBEq (Option Party × Message) :=
  inferInstance

/-- The message an action hands over and its context, with the receiver. -/
def arrival [DecidableEq Message] (network : Network Party Message State) :
    Action Party Message Context → List (Party × Message × Context)
  | .inject _ | .lose _ _ => []
  | .deliver sender message receiver context =>
      if (sender, message) ∈ network.inFlight ∧ link sender receiver = true then
        [(receiver, message, context)]
      else
        []

def arrivals [DecidableEq Message] (network : Network Party Message State) :
    List (Action Party Message Context) → List (Party × Message × Context)
  | [] => []
  | action :: rest =>
      arrival link network action ++ arrivals (step link receive sent network action).1 rest

theorem arrived_delivered [DecidableEq Message] {network : Network Party Message State}
    {actions : List (Action Party Message Context)} {party : Party} {item : Message × Context}
    (arrived : item ∈ eventsOf party (arrivals link receive sent network actions)) :
    ∃ sender, Action.deliver sender item.1 party item.2 ∈ actions := by
  induction actions generalizing network with
  | nil => simp [arrivals, eventsOf] at arrived
  | cons action rest induction =>
      rw [arrivals, events_of_append, List.mem_append] at arrived
      rcases arrived with now | later
      · refine Exists.imp (fun _ => List.mem_cons.mpr ∘ Or.inl) ?_
        cases action with
        | inject message => simp [arrival, eventsOf] at now
        | lose sender message => simp [arrival, eventsOf] at now
        | deliver sender message receiver context =>
            rw [arrival] at now
            split at now
            · obtain ⟨rfl, rfl⟩ : receiver = party ∧ (message, context) = item := by
                simpa [eventsOf, and_comm, eq_comm] using now
              exact ⟨sender, rfl⟩
            · simp [eventsOf] at now
      · obtain ⟨sender, member⟩ := induction later
        exact ⟨sender, List.mem_cons_of_mem _ member⟩

/-- In the network a party runs over what arrives at it. -/
theorem run_party [DecidableEq Message] (party : Party)
    (network : Network Party Message State) (actions : List (Action Party Message Context)) :
    EventMachine.run (fun state item => receive state item.1 item.2) (network.states party)
        (eventsOf party (arrivals link receive sent network actions)) =
      ((EventMachine.run (step link receive sent) network actions).1.states party,
        eventsOf party (EventMachine.run (step link receive sent) network actions).2) := by
  induction actions generalizing network with
  | nil => rfl
  | cons action rest induction =>
      have first : EventMachine.run (fun state item => receive state item.1 item.2)
          (network.states party) (eventsOf party (arrival link network action)) =
            ((step link receive sent network action).1.states party,
              eventsOf party (step link receive sent network action).2) := by
        cases action with
        | inject message => rfl
        | lose sender message => rfl
        | deliver sender message receiver context =>
            by_cases possible : (sender, message) ∈ network.inFlight ∧ link sender receiver = true
            · simp only [arrival, step, if_pos possible]
              by_cases same : receiver = party
              · subst same
                rw [events_of_self]
                simp [eventsOf, EventMachine.run_cons]
              · rw [events_of_other same, Function.update_of_ne (Ne.symm same)]
                simp [eventsOf, same]
            · simp [arrival, step, if_neg possible, eventsOf]
      rw [arrivals, events_of_append, EventMachine.run_append, first]
      simp only [induction, EventMachine.run_cons, events_of_append]

/-- An action that a settling run consists of: nothing is lost, what is injected is
allowed, and a message is received under the conditions that its receiver needs. -/
def Kept (allowed : Message → Prop) (fit : Context → Prop) :
    Action Party Message Context → Prop
  | .inject message => allowed message
  | .deliver _ _ _ context => fit context
  | .lose _ _ => False

/-- What a run keeps: each party meets the invariant for what arrived at it and what it
did, what it sent is in flight, and whoever sent or received something is connected. -/
structure Traced (allowed : Message → Prop)
    (invariant : List (Message × Context) → State → List Event → Prop)
    (network : Network Party Message State) (arrived : List (Party × Message × Context))
    (history : List (Party × Event)) : Prop where
  flying : ∀ entry ∈ network.inFlight, allowed entry.2
  holds : ∀ party, invariant (eventsOf party arrived) (network.states party)
    (eventsOf party history)
  relayed : ∀ party, ∀ event ∈ eventsOf party history, ∀ message, sent event = some message →
    (some party, message) ∈ network.inFlight
  senders : ∀ party message, (some party, message) ∈ network.inFlight → Connected link party
  receivers : ∀ party, eventsOf party arrived ≠ [] → Connected link party

variable {link receive sent} {allowed : Message → Prop} {fit : Context → Prop}
  {invariant : List (Message × Context) → State → List Event → Prop}
  {network : Network Party Message State} {arrived : List (Party × Message × Context)}
  {history : List (Party × Event)}

theorem Traced.connected (traced : Traced link sent allowed invariant network arrived history)
    {sender : Option Party} {message : Message} {receiver : Party}
    (flying : (sender, message) ∈ network.inFlight) (linked : link sender receiver = true) :
    Connected link receiver := by
  cases sender with
  | none => exact .entry linked
  | some party => exact .hop (traced.senders party message flying) linked

theorem Traced.inject (traced : Traced link sent allowed invariant network arrived history)
    {message : Message} (fresh : allowed message) :
    Traced link sent allowed invariant
      { network with inFlight := (none, message) :: network.inFlight } arrived history where
  flying := by
    intro entry member
    rcases List.mem_cons.mp member with rfl | before
    · exact fresh
    · exact traced.flying entry before
  holds := traced.holds
  relayed := by
    intro party event happened other isSent
    exact List.mem_cons_of_mem _ (traced.relayed party event happened other isSent)
  senders := by
    intro party other member
    rcases List.mem_cons.mp member with same | before
    · cases same
    · exact traced.senders party other before
  receivers := traced.receivers

section Rule

-- A party that receives something carries the invariant on, and sends only what is allowed.
variable
    (carried : ∀ arrived state history message context, allowed message → fit context →
      invariant arrived state history → invariant (arrived ++ [(message, context)])
        (receive state message context).1 (history ++ (receive state message context).2))
    (replies : ∀ arrived state history message context, allowed message → fit context →
      invariant arrived state history →
      ∀ reply ∈ (receive state message context).2.filterMap sent, allowed reply)

include carried replies

theorem Traced.deliver (traced : Traced link sent allowed invariant network arrived history)
    {sender : Option Party} {message : Message} {receiver : Party} {context : Context}
    (suits : fit context) (flying : (sender, message) ∈ network.inFlight)
    (linked : link sender receiver = true) :
    Traced link sent allowed invariant
      ⟨Function.update network.states receiver
          (receive (network.states receiver) message context).1,
        ((receive (network.states receiver) message context).2.filterMap sent).map
            (fun reply => (some receiver, reply)) ++ network.inFlight⟩
      (arrived ++ [(receiver, message, context)])
      (history ++ (receive (network.states receiver) message context).2.map
        fun event => (receiver, event)) := by
  have fresh : allowed message := traced.flying (sender, message) flying
  have reached : Connected link receiver := traced.connected flying linked
  have single : ∀ party, eventsOf party [(receiver, message, context)] =
      if receiver = party then [(message, context)] else [] := by
    intro party
    by_cases same : receiver = party <;> simp [eventsOf, same]
  constructor
  · intro entry member
    rcases List.mem_append.mp member with new | before
    · rcases List.mem_map.mp new with ⟨reply, isReply, rfl⟩
      exact replies _ _ _ _ _ fresh suits (traced.holds receiver) reply isReply
    · exact traced.flying entry before
  · intro party
    rw [events_of_append, events_of_append, single]
    by_cases same : receiver = party
    · subst same
      rw [if_pos rfl, events_of_self]
      simp only [Function.update_self]
      exact carried _ _ _ _ _ fresh suits (traced.holds receiver)
    · rw [if_neg same, events_of_other same, List.append_nil, List.append_nil]
      simp only [Function.update_of_ne (Ne.symm same)]
      exact traced.holds party
  · intro party event happened other isSent
    rw [events_of_append] at happened
    rcases List.mem_append.mp happened with before | now
    · exact List.mem_append_right _ (traced.relayed party event before other isSent)
    · by_cases same : receiver = party
      · subst same
        rw [events_of_self] at now
        exact List.mem_append_left _ (List.mem_map.mpr
          ⟨other, List.mem_filterMap.mpr ⟨event, now, isSent⟩, rfl⟩)
      · rw [events_of_other same] at now
        exact absurd now List.not_mem_nil
  · intro party other member
    rcases List.mem_append.mp member with new | before
    · rcases List.mem_map.mp new with ⟨reply, -, same⟩
      cases same
      exact reached
    · exact traced.senders party other before
  · intro party some_
    by_cases same : receiver = party
    · rw [← same]
      exact reached
    · rw [events_of_append, single, if_neg same, List.append_nil] at some_
      exact traced.receivers party some_

variable (link receive sent)

/-- The rule for a whole run. -/
theorem traced_run [DecidableEq Message]
    (actions : List (Action Party Message Context))
    (kept : ∀ action ∈ actions, Kept allowed fit action)
    (traced : Traced link sent allowed invariant network arrived history) :
    Traced link sent allowed invariant
      (EventMachine.run (step link receive sent) network actions).1
      (arrived ++ arrivals link receive sent network actions)
      (history ++ (EventMachine.run (step link receive sent) network actions).2) := by
  induction actions generalizing network arrived history with
  | nil => simpa [arrivals] using traced
  | cons action rest induction =>
      have first : Traced link sent allowed invariant (step link receive sent network action).1
          (arrived ++ arrival link network action)
          (history ++ (step link receive sent network action).2) := by
        have suits := kept action List.mem_cons_self
        cases action with
        | inject message => simpa [step, arrival] using traced.inject suits
        | lose sender message => exact absurd suits id
        | deliver sender message receiver context =>
            by_cases possible : (sender, message) ∈ network.inFlight ∧ link sender receiver = true
            · simp only [step, arrival, if_pos possible]
              exact Traced.deliver carried replies traced suits possible.1 possible.2
            · simpa [step, arrival, if_neg possible] using traced
      have later := induction (fun other member => kept other (List.mem_cons_of_mem _ member)) first
      rwa [List.append_assoc, List.append_assoc] at later

end Rule

variable (link receive sent)

theorem injected_flying [DecidableEq Message] (actions : List (Action Party Message Context))
    (kept : ∀ action ∈ actions, Kept allowed fit action) {message : Message}
    (injected : Action.inject message ∈ actions ∨ (none, message) ∈ network.inFlight) :
    (none, message) ∈
      (EventMachine.run (step link receive sent) network actions).1.inFlight := by
  induction actions generalizing network with
  | nil => exact injected.resolve_left List.not_mem_nil
  | cons action rest induction =>
      apply induction fun other member => kept other (List.mem_cons_of_mem _ member)
      have suits := kept action List.mem_cons_self
      rcases injected with member | flying
      · rcases List.mem_cons.mp member with now | later
        · subst now
          exact Or.inr List.mem_cons_self
        · exact Or.inl later
      · apply Or.inr
        cases action with
        | inject other => exact List.mem_cons_of_mem _ flying
        | lose sender other => exact absurd suits id
        | deliver sender other receiver context =>
            by_cases possible : (sender, other) ∈ network.inFlight ∧ link sender receiver = true
            · simp only [step, if_pos possible]
              exact List.mem_append_right _ flying
            · simpa [step, if_neg possible] using flying

end Arrivals

/-- A group of messages came from outside; a party that has all of it is done, and passes
it on then. When the group has settled, every connected party is done. -/
theorem connected_done {link : Option Party → Party → Bool}
    {network : Network Party Message State} {arrived : Party → List Message}
    (group : Message → Prop) (done : Party → Prop)
    (outside : ∀ message, group message → (none, message) ∈ network.inFlight)
    (complete : ∀ party, (∀ message, group message → message ∈ arrived party) → done party)
    (passes : ∀ party, done party → ∀ message, group message →
      (some party, message) ∈ network.inFlight)
    (settled : ∀ sender message receiver, group message → (sender, message) ∈ network.inFlight →
      link sender receiver = true → message ∈ arrived receiver ∨ done receiver)
    {party : Party} (connected : Connected link party) : done party := by
  have hop : ∀ sender receiver, (∀ message, group message →
      (sender, message) ∈ network.inFlight) → link sender receiver = true → done receiver := by
    intro sender receiver sends linked
    by_contra waits
    apply waits
    apply complete receiver
    intro message member
    exact (settled sender message receiver member (sends message member) linked).resolve_right
      waits
  induction connected with
  | entry direct => exact hop none _ outside direct
  | hop _ linked induction => exact hop _ _ (passes _ induction) linked

end MessageNetwork
