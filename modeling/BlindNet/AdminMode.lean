import BlindNet.Interop

/-!
# Admin mode and the pill handler

The button task enters admin mode while the receiving task may be inside the pill
handler. Both write `CURRENT_STATE`, and neither knows of the other: a handler that
is under way takes the state out of admin mode again. Reads of the state and calls
of `transition_to` are single steps, in any order of the two tasks.
-/

namespace BlindNet

set_option autoImplicit false

open EventMachine

/-- Where `on_admin_setup_button_hold` stands. -/
inductive ButtonTask where
  | idle
  | claimed
  | entered
  | quiescent
  | accessPoint
  | opened
  deriving DecidableEq, Repr

/-- Where `on_action_pill_received` stands, with its local variables. -/
inductive PillTask where
  | idle
  | received (pill : ActionPill) (previousState : ConscienceState)
  | relaying (pill : ActionPill) (previousState : ConscienceState)
  | relayed (pill : ActionPill) (previousState : ConscienceState) (relayResult : Result Unit)
  | digesting (pill : ActionPill) (previousState : ConscienceState) (relayResult : Result Unit)
  | digested (previousState : ConscienceState) (relayResult localResult : Result Unit)

structure AdminMode where
  guardian : Guardian
  windowActive : Bool
  button : ButtonTask
  handler : PillTask
  restarted : Bool

inductive AdminModeInput where
  | buttonHold
  | buttonStep (answer : Result Unit)
  | pillReceived (pill : ActionPill)
  | handlerStep (env : Environment)
  | windowClosed

inductive AdminModeEvent where
  | guardian (event : Event)
  | returned (result : Result Unit)

namespace AdminMode

def currentState (mode : AdminMode) : ConscienceState :=
  mode.guardian.core.currentState

def enter (mode : AdminMode) (next : ConscienceState) : AdminMode :=
  { mode with guardian := ⟨mode.guardian.g2g, transitionTo mode.guardian.core next⟩ }

def espRestart (mode : AdminMode) : AdminMode :=
  { mode with windowActive := false, restarted := true }

def onAdminSetupButtonHold (mode : AdminMode) : AdminMode :=
  if mode.button ≠ .idle ∨ mode.windowActive then mode
  else { mode with windowActive := true, button := .claimed }

/-- `answer` is what `switch_to_ap` or `open_window` answers. What the stops of the
quiescent mode do to the radio is part of the environment of the handler. -/
def buttonStep (mode : AdminMode) (answer : Result Unit) : AdminMode :=
  match mode.button with
  | .idle => mode
  | .claimed => { mode.enter .admin with button := .entered }
  | .entered => { mode with button := .quiescent }
  | .quiescent =>
      match answer with
      | .error _ => mode.espRestart
      | .ok () => { mode with button := .accessPoint }
  | .accessPoint =>
      match answer with
      | .error _ => mode.espRestart
      | .ok () => { mode with button := .opened }
  | .opened => { mode with button := .idle }

def onActionPill (mode : AdminMode) (pill : ActionPill) : AdminMode :=
  match mode.handler with
  | .idle => { mode with handler := .received pill mode.currentState }
  | _ => mode

def handlerResult (relayResult localResult : Result Unit) : Result Unit :=
  match localResult with
  | .ok () => .ok ()
  | .error .notFound => relayResult
  | .error err => .error err

def handlerStep (crypto : Crypto) (env : Environment) (mode : AdminMode) :
    AdminMode × List AdminModeEvent :=
  match mode.handler with
  | .idle => (mode, [])
  | .received pill previousState =>
      ({ mode.enter .actionPillRelay with handler := .relaying pill previousState }, [])
  | .relaying pill previousState =>
      let relay := sendActionPill crypto env.ble mode.guardian.g2g pill
      ({ mode with
          guardian := ⟨relay.2, mode.guardian.core⟩
          handler := .relayed pill previousState relay.1.result },
        relay.1.sent.map fun frame => .guardian (.relayed frame))
  | .relayed pill previousState relayResult =>
      ({ mode.enter .actionPillDigest with handler := .digesting pill previousState relayResult },
        [])
  | .digesting pill previousState relayResult =>
      let processed := processLocally crypto env mode.guardian.core pill
      ({ mode with
          guardian := ⟨mode.guardian.g2g, processed.2⟩
          handler := .digested previousState relayResult processed.1.1 },
        processed.1.2.map fun publication => .guardian (.published publication))
  | .digested previousState relayResult localResult =>
      ({ mode.enter previousState with handler := .idle },
        [.returned (handlerResult relayResult localResult)])

/-- Nothing happens after the restart. A second hold finds the task busy or the window
active, and pills come one at a time. -/
def step (crypto : Crypto) (mode : AdminMode) (input : AdminModeInput) :
    AdminMode × List AdminModeEvent :=
  if mode.restarted then
    (mode, [])
  else
    match input with
    | .buttonHold => (mode.onAdminSetupButtonHold, [])
    | .buttonStep answer => (mode.buttonStep answer, [])
    | .pillReceived pill => (mode.onActionPill pill, [])
    | .handlerStep env => mode.handlerStep crypto env
    | .windowClosed => (mode.espRestart, [])

end AdminMode

/-! ## The handler alone -/

/-- Undisturbed, the steps of the handler are `on_action_pill_received`. -/
theorem handler_alone (crypto : Crypto) (env : Environment) (pill : ActionPill)
    (mode : AdminMode) (idle : mode.handler = .idle) (up : mode.restarted = false) :
    let outcome := onActionPillReceived crypto env pill mode.guardian
    run (AdminMode.step crypto) mode (.pillReceived pill :: List.replicate 5 (.handlerStep env)) =
      ({ mode with guardian := outcome.node },
        outcome.events.map .guardian ++ [.returned outcome.result]) := by
  rcases mode with ⟨guardian, windowActive, button, handler, restarted⟩
  simp only at idle up
  subst idle up
  simp [run, AdminMode.step, AdminMode.onActionPill, AdminMode.handlerStep, AdminMode.enter,
    AdminMode.currentState, onActionPillReceived, List.replicate, transitionTo]
  rfl

/-! ## Both tasks -/

/-- Once the state is `Admin` it stays so until the restart. -/
def AdminExclusive (crypto : Crypto) (mode : AdminMode) (inputs : List AdminModeInput) : Prop :=
  ∀ before between after, inputs = before ++ between ++ after →
    (run (AdminMode.step crypto) mode before).1.currentState = .admin →
      (run (AdminMode.step crypto) mode (before ++ between)).1.restarted = true ∨
        (run (AdminMode.step crypto) mode (before ++ between)).1.currentState = .admin

/-- No handler is under way when the button task enters admin mode, and none starts in
admin mode. -/
def AdminMode.Quiet (mode : AdminMode) (input : AdminModeInput) : Prop :=
  match input with
  | .buttonStep _ => mode.button = .claimed → mode.handler = .idle
  | .pillReceived _ => mode.currentState ≠ .admin
  | _ => True

def PillTask.restores : PillTask → Option ConscienceState
  | .idle => none
  | .received _ previousState => some previousState
  | .relaying _ previousState => some previousState
  | .relayed _ previousState _ => some previousState
  | .digesting _ previousState _ => some previousState
  | .digested previousState _ _ => some previousState

/-- A handler is never under way in admin mode and never restores it. -/
structure AdminMode.Apart (mode : AdminMode) : Prop where
  idle : mode.currentState = .admin → mode.handler = .idle
  outside : mode.handler.restores ≠ some .admin

theorem process_locally_state (crypto : Crypto) (env : Environment) (core : Core)
    (pill : ActionPill) :
    (processLocally crypto env core pill).2.currentState = core.currentState := by
  unfold processLocally
  split
  · rfl
  · rfl

/-- A step of a handler that restores another state does not reach admin mode. -/
theorem handler_step_apart {crypto : Crypto} {env : Environment} {mode : AdminMode}
    (apart : mode.Apart) : (mode.handlerStep crypto env).1.Apart := by
  unfold AdminMode.handlerStep
  split
  · exact apart
  · rename_i pill previousState under
    have outside := apart.outside
    rw [under] at outside
    exact ⟨by simp [AdminMode.currentState, AdminMode.enter, transitionTo], outside⟩
  · rename_i pill previousState under
    have outside := apart.outside
    have elsewhere := apart.idle
    rw [under] at outside elsewhere
    exact ⟨fun admin => (by cases elsewhere admin), outside⟩
  · rename_i pill previousState relayResult under
    have outside := apart.outside
    rw [under] at outside
    exact ⟨by simp [AdminMode.currentState, AdminMode.enter, transitionTo], outside⟩
  · rename_i pill previousState relayResult under
    have outside := apart.outside
    have elsewhere := apart.idle
    rw [under] at outside elsewhere
    refine ⟨?_, outside⟩
    intro admin
    have same : mode.currentState = .admin :=
      (process_locally_state crypto env mode.guardian.core pill).symm.trans admin
    cases elsewhere same
  · exact ⟨fun _ => rfl, by simp [PillTask.restores]⟩

theorem button_step_apart {mode : AdminMode} {answer : Result Unit} (apart : mode.Apart)
    (quiet : mode.button = .claimed → mode.handler = .idle) : (mode.buttonStep answer).Apart := by
  unfold AdminMode.buttonStep
  split
  · exact apart
  · rename_i claimed
    exact ⟨fun _ => quiet claimed, apart.outside⟩
  · exact ⟨apart.idle, apart.outside⟩
  · split
    · exact ⟨apart.idle, apart.outside⟩
    · exact ⟨apart.idle, apart.outside⟩
  · split
    · exact ⟨apart.idle, apart.outside⟩
    · exact ⟨apart.idle, apart.outside⟩
  · exact ⟨apart.idle, apart.outside⟩

theorem admin_mode_step_apart {crypto : Crypto} {mode : AdminMode} {input : AdminModeInput}
    (quiet : mode.Quiet input) (apart : mode.Apart) : (mode.step crypto input).1.Apart := by
  unfold AdminMode.step
  by_cases stopped : mode.restarted = true
  · rw [if_pos stopped]
    exact apart
  · rw [if_neg stopped]
    cases input with
    | buttonHold =>
        simp only [AdminMode.onAdminSetupButtonHold]
        split
        · exact apart
        · exact ⟨apart.idle, apart.outside⟩
    | buttonStep answer => exact button_step_apart apart quiet
    | pillReceived pill =>
        simp only [AdminMode.onActionPill]
        split
        · constructor
          · intro admin
            exact absurd admin quiet
          · intro restored
            exact quiet (Option.some.inj restored)
        · exact apart
    | handlerStep env => exact handler_step_apart apart
    | windowClosed => exact ⟨apart.idle, apart.outside⟩

/-- Without a handler under way, admin mode is only left by the restart. -/
theorem admin_mode_step_stays {crypto : Crypto} {mode : AdminMode} (input : AdminModeInput)
    (apart : mode.Apart) (held : mode.restarted = true ∨ mode.currentState = .admin) :
    (mode.step crypto input).1.restarted = true ∨
      (mode.step crypto input).1.currentState = .admin := by
  unfold AdminMode.step
  by_cases stopped : mode.restarted = true
  · rw [if_pos stopped]
    exact Or.inl stopped
  · rw [if_neg stopped]
    have admin : mode.currentState = .admin := held.resolve_left stopped
    cases input with
    | buttonHold =>
        simp only [AdminMode.onAdminSetupButtonHold]
        split
        · exact Or.inr admin
        · exact Or.inr admin
    | buttonStep answer =>
        simp only [AdminMode.buttonStep]
        split
        · exact Or.inr admin
        · exact Or.inr rfl
        · exact Or.inr admin
        · split
          · exact Or.inl rfl
          · exact Or.inr admin
        · split
          · exact Or.inl rfl
          · exact Or.inr admin
        · exact Or.inr admin
    | pillReceived pill =>
        simp only [AdminMode.onActionPill]
        split
        · exact Or.inr admin
        · exact Or.inr admin
    | handlerStep env =>
        simp only [AdminMode.handlerStep, apart.idle admin]
        exact Or.inr admin
    | windowClosed => exact Or.inl rfl

/-- Admin mode is exclusive in every run in which no handler is under way when it is
entered and none starts in it. -/
theorem admin_mode_exclusive (crypto : Crypto) {mode : AdminMode} (idle : mode.handler = .idle)
    (inputs : List AdminModeInput)
    (quiet : ∀ before input after, inputs = before ++ input :: after →
      (run (AdminMode.step crypto) mode before).1.Quiet input) :
    AdminExclusive crypto mode inputs := by
  intro before between after split admin
  have initially : mode.Apart := ⟨fun _ => idle, by simp [idle, PillTask.restores]⟩
  have apart : (run (AdminMode.step crypto) mode before).1.Apart := by
    apply guarded_history_run (AdminMode.step crypto) AdminMode.Quiet (fun mode _ => mode.Apart)
      (fun mode _ input quiet apart => admin_mode_step_apart quiet apart) mode [] before
    · intro early input late order
      apply quiet early input (late ++ between ++ after)
      rw [split, order]
      simp
    · exact initially
  rw [run_append]
  have carried := guarded_history_run (AdminMode.step crypto) AdminMode.Quiet
    (fun mode _ => mode.Apart ∧ (mode.restarted = true ∨ mode.currentState = .admin))
    (fun mode _ input quiet kept =>
      ⟨admin_mode_step_apart quiet kept.1, admin_mode_step_stays input kept.1 kept.2⟩)
    (run (AdminMode.step crypto) mode before).1 [] between
  apply (carried _ ⟨apart, Or.inr admin⟩).2
  intro early input late order
  have guarded := quiet (before ++ early) input (late ++ after) (by rw [split, order]; simp)
  rw [run_append] at guarded
  exact guarded

def lampMode : AdminMode where
  guardian := lampGuardian
  windowActive := false
  button := .idle
  handler := .idle
  restarted := false

/-- A pill is handled to its end before the button is held. -/
def orderlyRun : List AdminModeInput :=
  [.pillReceived lampPill, .handlerStep benchEnvironment, .handlerStep benchEnvironment,
    .handlerStep benchEnvironment, .handlerStep benchEnvironment, .handlerStep benchEnvironment,
    .buttonHold, .buttonStep (.ok ()), .handlerStep benchEnvironment, .buttonStep (.ok ())]

theorem lamp_mode_exclusive :
    AdminExclusive benchCrypto lampMode orderlyRun ∧
      (run (AdminMode.step benchCrypto) lampMode orderlyRun).1.currentState = .admin := by
  refine ⟨?_, rfl⟩
  apply @admin_mode_exclusive benchCrypto lampMode rfl
  apply Guarded.splits
  have online : lampMode.currentState ≠ .admin := by decide
  exact ⟨online, trivial, trivial, trivial, trivial, trivial, trivial, fun _ => rfl, trivial,
    fun _ => rfl, trivial⟩

def overtakenRun : List AdminModeInput :=
  [.pillReceived lampPill, .buttonHold, .buttonStep (.ok ()), .handlerStep benchEnvironment,
    .buttonStep (.ok ()), .buttonStep (.ok ()), .buttonStep (.ok ()),
    .handlerStep benchEnvironment, .handlerStep benchEnvironment,
    .handlerStep benchEnvironment, .handlerStep benchEnvironment]

/-- The handler leaves admin mode at once and in the end restores `NormalOnline`, with
the admin window open. -/
theorem overtaken_handler_leaves_admin :
    ¬ AdminExclusive benchCrypto lampMode overtakenRun ∧
      (run (AdminMode.step benchCrypto) lampMode overtakenRun).1.currentState = .normalOnline ∧
      (run (AdminMode.step benchCrypto) lampMode overtakenRun).1.windowActive = true := by
  refine ⟨?_, rfl, rfl⟩
  intro exclusive
  have stays := exclusive (overtakenRun.take 3) [.handlerStep benchEnvironment]
    (overtakenRun.drop 4) rfl rfl
  rcases stays with restarted | admin
  · cases restarted
  · cases admin

end BlindNet
