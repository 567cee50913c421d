import Mathlib.Data.List.Induction

/-!
# Runs of an event machine

A machine takes one input at a time and answers with events. A run folds the
inputs and keeps the events in order. The rules here are the only inductions
over a run that the development needs: one for a state invariant, one for an
invariant that ties the state to the events so far, one that locates the step
an event came from, and one that finds the step since which a fact holds.
-/

namespace EventMachine

set_option autoImplicit false

variable {State Input Event : Type} (step : State → Input → State × List Event)

def run (state : State) : List Input → State × List Event
  | [] => (state, [])
  | input :: rest =>
      let next := step state input
      let later := run next.1 rest
      (later.1, next.2 ++ later.2)

@[simp] theorem run_nil (state : State) : run step state [] = (state, []) := rfl

theorem run_cons (state : State) (input : Input) (rest : List Input) :
    run step state (input :: rest) =
      ((run step (step state input).1 rest).1,
        (step state input).2 ++ (run step (step state input).1 rest).2) := rfl

theorem run_append (state : State) (first second : List Input) :
    run step state (first ++ second) =
      ((run step (run step state first).1 second).1,
        (run step state first).2 ++ (run step (run step state first).1 second).2) := by
  induction first generalizing state with
  | nil => simp
  | cons input rest induction => simp [run_cons, induction]

/-- A machine whose every step is the image of a step of another one runs as its image. -/
theorem run_refines {Abstract Seen : Type} (abstract : Abstract → Input → Abstract × List Seen)
    (image : Abstract → State) (shown : Seen → Event)
    (refines : ∀ state input, step (image state) input =
      (image (abstract state input).1, (abstract state input).2.map shown))
    (state : Abstract) (inputs : List Input) :
    run step (image state) inputs =
      (image (run abstract state inputs).1, (run abstract state inputs).2.map shown) := by
  induction inputs generalizing state with
  | nil => rfl
  | cons input rest induction =>
      rw [run_cons, refines, induction, run_cons, List.map_append]

/-- A run over translated inputs is a run of the translated machine. -/
theorem run_map {Source : Type} (translate : Source → Input) (state : State)
    (inputs : List Source) :
    run step state (inputs.map translate) =
      run (fun state input => step state (translate input)) state inputs := by
  induction inputs generalizing state with
  | nil => rfl
  | cons input rest induction => rw [List.map_cons, run_cons, run_cons, induction]

theorem run_append_silent {state : State} {first second : List Input}
    (silent : run step (run step state first).1 second = ((run step state first).1, [])) :
    run step state (first ++ second) = run step state first := by
  rw [run_append, silent, List.append_nil]

/-- A property of the state and of the events so far that every step carries
on holds after every run. -/
theorem history_run (invariant : State → List Event → Prop)
    (carried : ∀ state history input, invariant state history →
      invariant (step state input).1 (history ++ (step state input).2))
    (state : State) (history : List Event) (inputs : List Input)
    (holds : invariant state history) :
    invariant (run step state inputs).1 (history ++ (run step state inputs).2) := by
  induction inputs generalizing state history with
  | nil => simpa using holds
  | cons input rest induction =>
      have later := induction _ _ (carried state history input holds)
      simpa [run_cons, List.append_assoc] using later

/-- As `history_run`, for steps whose input meets a side condition. -/
theorem guarded_history_run (guard : State → Input → Prop)
    (invariant : State → List Event → Prop)
    (carried : ∀ state history input, guard state input → invariant state history →
      invariant (step state input).1 (history ++ (step state input).2))
    (state : State) (history : List Event) (inputs : List Input)
    (guarded : ∀ before input after, inputs = before ++ input :: after →
      guard (run step state before).1 input)
    (holds : invariant state history) :
    invariant (run step state inputs).1 (history ++ (run step state inputs).2) := by
  induction inputs generalizing state history with
  | nil => simpa using holds
  | cons input rest induction =>
      have first := guarded [] input rest rfl
      have later := induction _ _
        (by
          intro before next after split
          have shifted := guarded (input :: before) next after (by rw [split]; rfl)
          simpa [run_cons] using shifted)
        (carried state history input first holds)
      simpa [run_cons, List.append_assoc] using later

/-- The side condition, followed along the run one step at a time. -/
def Guarded (guard : State → Input → Prop) (state : State) : List Input → Prop
  | [] => True
  | input :: rest => guard state input ∧ Guarded guard (step state input).1 rest

theorem Guarded.splits {guard : State → Input → Prop} {state : State} {inputs : List Input}
    (guarded : Guarded step guard state inputs) (before : List Input) (input : Input)
    (after : List Input) (split : inputs = before ++ input :: after) :
    guard (run step state before).1 input := by
  induction before generalizing state inputs with
  | nil =>
      subst split
      exact guarded.1
  | cons first rest induction =>
      subst split
      exact induction guarded.2 rfl

theorem invariant_run (invariant : State → Prop)
    (carried : ∀ state input, invariant state → invariant (step state input).1)
    (state : State) (inputs : List Input) (holds : invariant state) :
    invariant (run step state inputs).1 :=
  history_run step (fun state _ => invariant state)
    (fun state _ input holds => carried state input holds) state [] inputs holds

theorem run_unchanged {state : State} {inputs : List Input}
    (still : ∀ before input after, inputs = before ++ input :: after →
      (step (run step state before).1 input).1 = (run step state before).1) :
    (run step state inputs).1 = state := by
  apply guarded_history_run step (fun current input => (step current input).1 = current)
    (fun current _ => current = state) _ state [] inputs still rfl
  intro current _ input unchanged same
  exact unchanged.trans same

/-- Every event of a run comes from one of its steps. -/
theorem event_origin (state : State) (inputs : List Input) (event : Event)
    (member : event ∈ (run step state inputs).2) :
    ∃ before input after, inputs = before ++ input :: after ∧
      event ∈ (step (run step state before).1 input).2 := by
  induction inputs generalizing state with
  | nil => simp at member
  | cons input rest induction =>
      rw [run_cons] at member
      rcases List.mem_append.mp member with here | later
      · exact ⟨[], input, rest, rfl, here⟩
      · obtain ⟨before, next, after, split, origin⟩ := induction _ later
        refine ⟨input :: before, next, after, by rw [split]; rfl, ?_⟩
        simpa [run_cons] using origin

/-- A fact that only some steps establish and that others break was established by
one of them, and no step broke it since. -/
theorem established_since (Holds : State → Prop) (Establishes Breaks : State → Input → Prop)
    (carried : ∀ state input, Holds (step state input).1 →
      Establishes state input ∨ (Holds state ∧ ¬ Breaks state input))
    {state : State} (initially : ¬ Holds state) (inputs : List Input)
    (holds : Holds (run step state inputs).1) :
    ∃ early input late, inputs = early ++ input :: late ∧
      Establishes (run step state early).1 input ∧
      ∀ first next rest, late = first ++ next :: rest →
        ¬ Breaks (run step state (early ++ input :: first)).1 next := by
  induction inputs using List.reverseRecOn with
  | nil => exact absurd holds initially
  | append_singleton before last induction =>
      rw [run_append] at holds
      rcases carried _ last holds with establishing | ⟨held, keeping⟩
      · refine ⟨before, last, [], rfl, establishing, ?_⟩
        intro first next rest split
        simp at split
      · rcases induction held with ⟨early, input, late, split, establishing, unbroken⟩
        refine ⟨early, input, late ++ [last], by rw [split]; simp, establishing, ?_⟩
        intro first next rest order
        rcases List.eq_nil_or_concat rest with rfl | ⟨others, final, rfl⟩
        · rcases List.append_inj' order rfl with ⟨rfl, sameLast⟩
          cases sameLast
          rw [← split]
          exact keeping
        · rw [List.concat_eq_append, ← List.cons_append, ← List.append_assoc] at order
          exact unbroken first next others (List.append_inj' order rfl).1

/-- Inputs that a machine does not see are missed by nobody when two states stay related:
over each of these inputs on one side alone, and over every other input on both sides with
the same events. The relation also speaks of the inputs to come. -/
theorem run_skipping (skips : Input → Bool) (related : List Input → State → State → Prop)
    (skipped : ∀ input rest state plain, skips input = true →
      related (input :: rest) state plain →
        (step state input).2 = [] ∧ related rest (step state input).1 plain)
    (taken : ∀ input rest state plain, skips input = false →
      related (input :: rest) state plain →
        (step state input).2 = (step plain input).2 ∧
          related rest (step state input).1 (step plain input).1)
    (inputs : List Input) (state plain : State) (holds : related inputs state plain) :
    (run step state inputs).2 = (run step plain (inputs.filter fun input => !skips input)).2 := by
  induction inputs generalizing state plain with
  | nil => rfl
  | cons input rest induction =>
      cases skip : skips input with
      | true =>
          obtain ⟨silent, later⟩ := skipped input rest state plain skip holds
          rw [List.filter_cons_of_neg (by simp [skip]), run_cons, silent, List.nil_append]
          exact induction _ _ later
      | false =>
          obtain ⟨same, later⟩ := taken input rest state plain skip holds
          rw [List.filter_cons_of_pos (by simp [skip]), run_cons, run_cons, same,
            induction _ _ later]

/-- As `run_skipping`, for a machine that has come to rest: what it answers does not depend
on its state any more. -/
theorem run_skipping_rest (skips : Input → Bool) (allowed : Input → Prop) (rests : State → Prop)
    (answers : Input → List Event)
    (stays : ∀ state input, rests state → allowed input →
      rests (step state input).1 ∧ (step state input).2 = answers input)
    (silent : ∀ input, skips input = true → answers input = [])
    (inputs : List Input) (state : State) (resting : rests state)
    (inside : ∀ input ∈ inputs, allowed input) :
    (run step state inputs).2 = (run step state (inputs.filter fun input => !skips input)).2 := by
  apply run_skipping step skips fun rest state plain =>
    rests state ∧ rests plain ∧ ∀ input ∈ rest, allowed input
  · intro input rest state plain skip related
    obtain ⟨resting, restingPlain, inside⟩ := related
    obtain ⟨next, answer⟩ := stays state input resting (inside input List.mem_cons_self)
    exact ⟨answer.trans (silent input skip), next, restingPlain,
      fun other member => inside other (List.mem_cons_of_mem _ member)⟩
  · intro input rest state plain _ related
    obtain ⟨resting, restingPlain, inside⟩ := related
    obtain ⟨next, answer⟩ := stays state input resting (inside input List.mem_cons_self)
    obtain ⟨nextPlain, answerPlain⟩ :=
      stays plain input restingPlain (inside input List.mem_cons_self)
    exact ⟨answer.trans answerPlain.symm, next, nextPlain,
      fun other member => inside other (List.mem_cons_of_mem _ member)⟩
  · exact ⟨resting, resting, inside⟩

end EventMachine
