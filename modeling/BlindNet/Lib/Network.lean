import Mathlib.Data.List.Basic
import Mathlib.Logic.Function.Basic
import BlindNet.Lib.Machine

/-!
# Networks of event machines

Parties that react to messages and may send some, over a medium that promises
nothing: a message in flight may be lost, overtaken, and delivered any number of
times, along any links. One rule lifts what each party preserves to the whole
network.
-/

namespace MessageNetwork

set_option autoImplicit false

variable {Party Message Context State Event : Type}

/-- The state of every party, and the messages in flight with their senders;
`none` is the outside world. -/
structure Network (Party Message State : Type) where
  states : Party → State
  inFlight : List (Option Party × Message)

inductive Action (Party Message Context : Type) where
  | inject (message : Message)
  | deliver (sender : Option Party) (message : Message) (receiver : Party) (context : Context)
  | lose (sender : Option Party) (message : Message)

section Events

variable [DecidableEq Party]

def eventsOf (party : Party) (events : List (Party × Event)) : List Event :=
  events.filterMap fun (source, event) => if source = party then some event else none

theorem events_of_append (party : Party) (first second : List (Party × Event)) :
    eventsOf party (first ++ second) = eventsOf party first ++ eventsOf party second :=
  List.filterMap_append

theorem events_of_self (party : Party) (events : List Event) :
    eventsOf party (events.map fun event => (party, event)) = events := by
  simp [eventsOf, List.filterMap_map]

theorem events_of_other {party other : Party} (different : other ≠ party) (events : List Event) :
    eventsOf party (events.map fun event => (other, event)) = [] := by
  simp [eventsOf, List.filterMap_map, different]

end Events

section Step

variable [DecidableEq Party] [DecidableEq Message] (link : Option Party → Party → Bool)
  (receive : State → Message → Context → State × List Event) (sent : Event → Option Message)

/-- A delivered message stays in flight, so that it can arrive again; an action
that is not possible changes nothing. -/
def step (network : Network Party Message State) :
    Action Party Message Context → Network Party Message State × List (Party × Event)
  | .inject message => ({ network with inFlight := (none, message) :: network.inFlight }, [])
  | .deliver sender message receiver context =>
      if (sender, message) ∈ network.inFlight ∧ link sender receiver = true then
        let next := receive (network.states receiver) message context
        (⟨Function.update network.states receiver next.1,
            (next.2.filterMap sent).map (fun reply => (some receiver, reply)) ++
              network.inFlight⟩,
          next.2.map fun event => (receiver, event))
      else
        (network, [])
  | .lose sender message =>
      ({ network with inFlight := network.inFlight.erase (sender, message) }, [])

/-- Every message in flight is allowed, and every party meets the invariant
with what it did so far. -/
def Sound (allowed : Message → Prop) (invariant : State → List Event → Prop)
    (network : Network Party Message State) (history : List (Party × Event)) : Prop :=
  (∀ entry ∈ network.inFlight, allowed entry.2) ∧
    ∀ party, invariant (network.states party) (eventsOf party history)

variable {allowed : Message → Prop} {invariant : State → List Event → Prop}

theorem sound_step
    (carried : ∀ state history message context, allowed message → invariant state history →
      invariant (receive state message context).1 (history ++ (receive state message context).2))
    (replies : ∀ state message context, allowed message →
      ∀ reply ∈ (receive state message context).2.filterMap sent, allowed reply)
    (network : Network Party Message State) (history : List (Party × Event))
    (action : Action Party Message Context)
    (injected : ∀ message, action = .inject message → allowed message)
    (sound : Sound allowed invariant network history) :
    Sound allowed invariant (step link receive sent network action).1
      (history ++ (step link receive sent network action).2) := by
  rcases sound with ⟨flying, holds⟩
  cases action with
  | inject message =>
      refine ⟨?_, by simpa [step] using holds⟩
      intro entry member
      rcases List.mem_cons.mp member with rfl | member
      · exact injected message rfl
      · exact flying entry member
  | lose sender message =>
      refine ⟨?_, by simpa [step] using holds⟩
      intro entry member
      exact flying entry (List.mem_of_mem_erase member)
  | deliver sender message receiver context =>
      by_cases possible : (sender, message) ∈ network.inFlight ∧ link sender receiver = true
      · have arrives : allowed message := flying (sender, message) possible.1
        simp only [step, if_pos possible]
        constructor
        · intro entry member
          rcases List.mem_append.mp member with fresh | member
          · rcases List.mem_map.mp fresh with ⟨reply, isReply, rfl⟩
            exact replies _ _ _ arrives reply isReply
          · exact flying entry member
        · intro party
          rw [events_of_append]
          dsimp only
          by_cases same : receiver = party
          · subst same
            rw [Function.update_self, events_of_self]
            exact carried _ _ _ _ arrives (holds receiver)
          · rw [Function.update_of_ne (Ne.symm same), events_of_other same, List.append_nil]
            exact holds party
      · simpa [step, if_neg possible] using ⟨flying, holds⟩

/-- What each party preserves on allowed messages holds throughout the network,
in every run in which only allowed messages are injected. -/
theorem sound_run
    (carried : ∀ state history message context, allowed message → invariant state history →
      invariant (receive state message context).1 (history ++ (receive state message context).2))
    (replies : ∀ state message context, allowed message →
      ∀ reply ∈ (receive state message context).2.filterMap sent, allowed reply)
    (network : Network Party Message State) (actions : List (Action Party Message Context))
    (injected : ∀ message, Action.inject message ∈ actions → allowed message)
    (start : Sound allowed invariant network []) :
    Sound allowed invariant (EventMachine.run (step link receive sent) network actions).1
      (EventMachine.run (step link receive sent) network actions).2 := by
  have run := EventMachine.guarded_history_run (step link receive sent)
    (fun _ action => ∀ message, action = .inject message → allowed message)
    (Sound allowed invariant) (sound_step link receive sent carried replies) network [] actions
    (by
      intro before action after split message same
      apply injected message
      rw [split, same]
      exact List.mem_append_right _ List.mem_cons_self)
    start
  simpa using run

end Step

end MessageNetwork
