import BlindNet.Platform
import BlindNet.Lib.Machine
import BlindNet.Lib.Streak
import Mathlib.Algebra.Order.Floor.Div

/-!
# Setup button

The task that polls the setup button and reports a long press, and the calls that start
and stop it. One round of the task is one step; the level it samples is the input, and a
call of `on_hold` is the event, named by the number of the sample it was made at.
-/

namespace BlindNet

set_option autoImplicit false

open EventMachine Streak

def setupButtonDefaultGpio : Int32 := 0
def setupButtonDefaultHoldMs : UInt32 := 5000
def setupButtonDefaultPollMs : UInt32 := 50

/-- `setup_button_config_t`; of the callback it matters whether there is one. -/
structure SetupButtonConfig where
  gpioNum : Int32
  activeLow : Bool
  holdMs : UInt32
  pollMs : UInt32
  onHold : Bool
  deriving DecidableEq, Repr

namespace SetupButtonConfig

/-- What `setup_button_start` makes sure of before it creates the task. -/
structure Ready (config : SetupButtonConfig) : Prop where
  called : config.onHold = true
  holds : 0 < config.holdMs
  polls : 0 < config.pollMs

def withGpio (config : SetupButtonConfig) : SetupButtonConfig :=
  { config with
    gpioNum := if config.gpioNum < 0 then setupButtonDefaultGpio else config.gpioNum }

def withTimes (config : SetupButtonConfig) : SetupButtonConfig :=
  { config with
    holdMs := if config.holdMs = 0 then setupButtonDefaultHoldMs else config.holdMs
    pollMs := if config.pollMs = 0 then setupButtonDefaultPollMs else config.pollMs }

theorem with_times_ready {config : SetupButtonConfig} (called : config.onHold = true) :
    config.withTimes.Ready where
  called := called
  holds := by
    simp only [withTimes]
    split_ifs with zero
    · decide
    · exact UInt32.pos_iff_ne_zero.mpr zero
  polls := by
    simp only [withTimes]
    split_ifs with zero
    · decide
    · exact UInt32.pos_iff_ne_zero.mpr zero

end SetupButtonConfig

structure ButtonPin where
  pinBitMask : UInt64
  pullUp : Bool
  pullDown : Bool
  deriving DecidableEq, Repr

/-- The statics of the module: while the task runs, its configuration is complete. -/
structure SetupButton where
  config : SetupButtonConfig
  running : Bool
  ready : running = true → config.Ready

namespace SetupButton

def stopped (config : SetupButtonConfig) : SetupButton :=
  ⟨config, false, fun running => nomatch running⟩

/-- `setup_button_start` on a chip whose pins are those below `GPIO_NUM_MAX`, with what
`gpio_config` answers and whether the task was created. -/
def start (gpioNumMax : Int32) (button : SetupButton) (config : Option SetupButtonConfig)
    (gpioConfig : ButtonPin → Result Unit) (created : Bool) : Result Unit × SetupButton :=
  if button.running then
    (.ok (), button)
  else
    match config with
    | none => (.error .invalidArg, button)
    | some config =>
        if called : config.onHold = true then
          let pinned := config.withGpio
          if gpioNumMax ≤ pinned.gpioNum then
            (.error .invalidArg, stopped pinned)
          else
            let complete := pinned.withTimes
            let pin : ButtonPin :=
              ⟨1 <<< complete.gpioNum.toNatClampNeg.toUInt64, complete.activeLow,
                !complete.activeLow⟩
            match gpioConfig pin with
            | .error err => (.error err, stopped complete)
            | .ok () =>
                if created then
                  (.ok (), ⟨complete, true, fun _ => SetupButtonConfig.with_times_ready called⟩)
                else
                  (.error .noMem, stopped complete)
        else
          (.error .invalidArg, button)

theorem start_ok_ready {gpioNumMax : Int32} {button : SetupButton}
    {config : Option SetupButtonConfig} {gpioConfig : ButtonPin → Result Unit} {created : Bool}
    (started : (button.start gpioNumMax config gpioConfig created).1 = .ok ()) :
    (button.start gpioNumMax config gpioConfig created).2.running = true ∧
      (button.start gpioNumMax config gpioConfig created).2.config.Ready := by
  have running : (button.start gpioNumMax config gpioConfig created).2.running = true := by
    unfold start at started ⊢
    grind
  exact ⟨running, (button.start gpioNumMax config gpioConfig created).2.ready running⟩

def stop (button : SetupButton) : SetupButton :=
  if button.running then stopped button.config else button

end SetupButton

/-! ## The task -/

structure SetupButtonTask where
  pressedMs : UInt32
  armed : Bool
  deriving DecidableEq, Repr

def SetupButtonTask.created : SetupButtonTask := ⟨0, true⟩

def buttonPressed (config : SetupButtonConfig) (level : Int32) : Bool :=
  if config.activeLow then level == 0 else level != 0

/-- One round of the loop at a sample and its number. -/
def setupButtonRound (config : SetupButtonConfig) (task : SetupButtonTask) (sample : Int32 × Nat) :
    SetupButtonTask × List Nat :=
  if buttonPressed config sample.1 then
    let pressedMs :=
      if task.pressedMs < config.holdMs then task.pressedMs + config.pollMs else task.pressedMs
    if task.armed && decide (config.holdMs ≤ pressedMs) then
      (⟨pressedMs, false⟩, if config.onHold then [sample.2] else [])
    else
      (⟨pressedMs, task.armed⟩, [])
  else
    (⟨0, true⟩, [])

/-- The samples at which the task calls `on_hold` while it reads the given levels. -/
def setupButtonTask (config : SetupButtonConfig) (levels : List Int32) : List Nat :=
  (run (setupButtonRound config) .created levels.zipIdx).2

namespace SetupButtonConfig

variable (config : SetupButtonConfig)

/-- How many pressed samples make a long press. -/
def needed : Nat := config.holdMs.toNat ⌈/⌉ config.pollMs.toNat

/-- The locals of the task after it has seen the given levels. -/
structure Follows (levels : List Int32) (task : SetupButtonTask) : Prop where
  pressedMs : task.pressedMs.toNat =
    min (streak (buttonPressed config) levels) config.needed * config.pollMs.toNat
  armed : task.armed = decide (streak (buttonPressed config) levels < config.needed)

variable {config}

theorem needed_le_iff (ready : config.Ready) (count : Nat) :
    config.needed ≤ count ↔ config.holdMs.toNat ≤ count * config.pollMs.toNat := by
  rw [needed, ceilDiv_le_iff_le_mul (UInt32.lt_iff_toNat_lt.mp ready.polls), Nat.mul_comm]

theorem needed_pos (ready : config.Ready) : 0 < config.needed := by
  have none := needed_le_iff ready 0
  have positive : 0 < config.holdMs.toNat := UInt32.lt_iff_toNat_lt.mp ready.holds
  omega

theorem follows_created (ready : config.Ready) : config.Follows [] .created where
  pressedMs := by simp [SetupButtonTask.created]
  armed := by
    have positive := needed_pos ready
    simp [SetupButtonTask.created, positive]

/-- A pressed sample below the long press is added up without a wrap. -/
theorem pressed_ms_next (ready : config.Ready)
    (fits : config.holdMs.toNat + config.pollMs.toNat < 2 ^ 32) {task : SetupButtonTask}
    {count : Nat}
    (counted : task.pressedMs.toNat = min count config.needed * config.pollMs.toNat) :
    (if task.pressedMs < config.holdMs then task.pressedMs + config.pollMs
      else task.pressedMs).toNat = min (count + 1) config.needed * config.pollMs.toNat := by
  have enough := needed_le_iff ready count
  by_cases below : task.pressedMs < config.holdMs
  · have small := UInt32.lt_iff_toNat_lt.mp below
    rw [if_pos below, UInt32.toNat_add, Nat.mod_eq_of_lt (by omega), counted]
    have early : count < config.needed := by
      by_contra late
      rw [counted, Nat.min_eq_right (by omega)] at small
      have reached := (needed_le_iff ready config.needed).mp le_rfl
      omega
    rw [Nat.min_eq_left (by omega), Nat.min_eq_left (by omega), Nat.succ_mul]
  · have large : config.holdMs.toNat ≤ task.pressedMs.toNat := by
      rw [UInt32.lt_iff_toNat_lt] at below
      omega
    have late : config.needed ≤ count := by
      by_contra early
      rw [counted, Nat.min_eq_left (by omega)] at large
      omega
    rw [if_neg below, counted, Nat.min_eq_right late, Nat.min_eq_right (by omega)]

/-- One round follows the streak and calls `on_hold` where it reaches the long press. -/
theorem round_follows (ready : config.Ready)
    (fits : config.holdMs.toNat + config.pollMs.toNat < 2 ^ 32) {levels : List Int32}
    {task : SetupButtonTask} (follows : config.Follows levels task) (level : Int32) (number : Nat) :
    config.Follows (levels ++ [level]) (setupButtonRound config task (level, number)).1 ∧
      (setupButtonRound config task (level, number)).2 =
        if streak (buttonPressed config) (levels ++ [level]) = config.needed then [number]
        else [] := by
  have positive := needed_pos ready
  have next := streak_append (buttonPressed config) levels level
  unfold setupButtonRound
  by_cases pressed : buttonPressed config level = true
  · rw [if_pos pressed] at next
    have counted := pressed_ms_next ready fits follows.pressedMs
    have reached : (config.holdMs ≤ if task.pressedMs < config.holdMs then
        task.pressedMs + config.pollMs else task.pressedMs) ↔
        config.needed ≤ streak (buttonPressed config) levels + 1 := by
      rw [UInt32.le_iff_toNat_le, counted, ← needed_le_iff ready]
      omega
    simp only [pressed, if_true, reached, follows.armed, ready.called]
    by_cases fires : streak (buttonPressed config) levels + 1 = config.needed
    · rw [if_pos (by simp; omega), next, if_pos fires]
      exact ⟨⟨by rw [next, counted], by rw [next]; simp; omega⟩, rfl⟩
    · rw [if_neg (by simp; omega), next, if_neg fires]
      exact ⟨⟨by rw [next, counted], by rw [next]; simp; omega⟩, rfl⟩
  · rw [if_neg pressed] at next
    rw [if_neg pressed, next, if_neg (by omega)]
    exact ⟨⟨by rw [next]; simp, by rw [next]; simp [positive]⟩, rfl⟩

/-- A whole run follows the streak and calls `on_hold` at the samples where the streak
is exactly a long press. -/
theorem task_follows (ready : config.Ready)
    (fits : config.holdMs.toNat + config.pollMs.toNat < 2 ^ 32) (levels : List Int32) :
    config.Follows levels (run (setupButtonRound config) .created levels.zipIdx).1 ∧
      setupButtonTask config levels = (List.range levels.length).filter fun number =>
        streak (buttonPressed config) (levels.take (number + 1)) = config.needed := by
  unfold setupButtonTask
  induction levels using List.reverseRecOn with
  | nil => exact ⟨follows_created ready, rfl⟩
  | append_singleton levels level induction =>
      obtain ⟨follows, calls⟩ := induction
      obtain ⟨followsNext, fires⟩ := round_follows ready fits follows level levels.length
      have inputs : (levels ++ [level]).zipIdx = levels.zipIdx ++ [(level, levels.length)] := by
        simp [List.zipIdx_append]
      have earlier : ∀ number ∈ List.range levels.length,
          (decide (streak (buttonPressed config) ((levels ++ [level]).take (number + 1)) =
              config.needed)) =
            decide (streak (buttonPressed config) (levels.take (number + 1)) = config.needed) := by
        intro number member
        rw [List.mem_range] at member
        rw [List.take_append_of_le_length (by omega)]
      have whole : (levels ++ [level]).take (levels.length + 1) = levels ++ [level] :=
        List.take_of_length_le (by simp)
      have here : [levels.length].filter (fun number =>
          streak (buttonPressed config) ((levels ++ [level]).take (number + 1)) = config.needed) =
            if streak (buttonPressed config) (levels ++ [level]) = config.needed
              then [levels.length] else [] := by
        simp only [List.filter_cons, List.filter_nil, whole, decide_eq_true_eq]
      rw [inputs, run_append, calls, run_cons, fires, List.length_append, List.length_singleton,
        List.range_succ, List.filter_append, List.filter_congr earlier, here]
      refine ⟨followsNext, ?_⟩
      rw [run_nil, List.append_nil]

end SetupButtonConfig

/-- Over every sequence of levels, `on_hold` is called once for each maximal run of pressed
samples that is long enough, at the sample that makes it so, and nowhere else. -/
theorem hold_button_fires_once_per_long_press (config : SetupButtonConfig)
    (ready : config.Ready) (fits : config.holdMs.toNat + config.pollMs.toNat < 2 ^ 32)
    (levels : List Int32) :
    (setupButtonTask config levels).Nodup ∧
    ∀ number, number ∈ setupButtonTask config levels ↔
      ∃ before run after, levels = before ++ run ++ after ∧
        MaximalRun (buttonPressed config) before run after ∧
        config.holdMs.toNat ⌈/⌉ config.pollMs.toNat ≤ run.length ∧
        number + 1 = before.length + config.holdMs.toNat ⌈/⌉ config.pollMs.toNat := by
  have calls := (SetupButtonConfig.task_follows ready fits levels).2
  constructor
  · rw [calls]
    exact List.nodup_range.filter _
  · intro number
    rw [calls, List.mem_filter, List.mem_range, decide_eq_true_iff]
    constructor
    · rintro ⟨inside, reached⟩
      exact (streak_take_iff inside (SetupButtonConfig.needed_pos ready)).mp reached
    · rintro ⟨before, run, after, split, maximal, long, place⟩
      have inside : number < levels.length := by
        rw [split, List.length_append, List.length_append]
        omega
      exact ⟨inside, (streak_take_iff inside (SetupButtonConfig.needed_pos ready)).mpr
        ⟨before, run, after, split, maximal, long, place⟩⟩

theorem bench_button_fires :
    let config : SetupButtonConfig := ⟨0, true, 180, 50, true⟩
    let levels : List Int32 := [0, 0, 0, 1, 0, 0, 0, 0, 0, 1]
    setupButtonTask config levels = [7] ∧ (setupButtonTask config levels).Nodup ∧
      7 ∈ setupButtonTask config levels ∧ 3 ∉ setupButtonTask config levels := by
  intro config levels
  have fires := hold_button_fires_once_per_long_press config
    ⟨rfl, by decide, by decide⟩ (by decide) levels
  refine ⟨by decide +kernel, fires.1, ?_, ?_⟩
  · have run : MaximalRun (buttonPressed config) [0, 0, 0, 1] [0, 0, 0, 0, 0] [1] :=
      ⟨by simp, by simp [config, buttonPressed], by simp [config, buttonPressed],
        by simp [config, buttonPressed]⟩
    exact (fires.2 7).mpr ⟨_, _, _, rfl, run, by decide, by decide⟩
  · -- a run of four samples from the first one on would have the released one in it
    intro called
    obtain ⟨before, run, after, split, maximal, long, place⟩ := (fires.2 3).mp called
    have four : config.holdMs.toNat ⌈/⌉ config.pollMs.toNat = 4 := by decide
    rw [four] at long place
    have first : before = [] := List.eq_nil_of_length_eq_zero (by omega)
    have fourth : levels[3]? = some 1 := rfl
    rw [split, first, List.nil_append, List.getElem?_append_left (by omega)] at fourth
    have inside := maximal.inside 1 (List.mem_of_getElem? fourth)
    exact absurd inside (by decide)

end BlindNet
