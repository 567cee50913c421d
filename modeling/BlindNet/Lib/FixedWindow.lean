import Mathlib.Data.List.Basic
import Mathlib.Data.UInt

/-!
# Counters over fixed windows

A counter of arrivals that starts again when its window is over. It keeps 32-bit numbers
and reads a 32-bit clock, and all of them wrap around. Three things are told apart here:
what the counter holds, the exact totals of a window, and the arrivals that were allowed
on a time line without an end.
-/

namespace FixedWindow

set_option autoImplicit false

structure Limits where
  window : UInt32
  maxPackets : UInt32
  maxBytes : UInt32
  deriving DecidableEq

structure Counter where
  start : UInt32
  packets : UInt32
  bytes : UInt32
  deriving DecidableEq

variable {limits : Limits}

/-- The arrival starts a window: it is the first one, or the window before is over. -/
def opens (limits : Limits) (counter : Option Counter) (ts : UInt32) : Bool :=
  counter.all fun held => decide (limits.window ≤ ts - held.start)

def arrive (limits : Limits) (counter : Option Counter) (ts size : UInt32) : Counter :=
  match counter with
  | none => ⟨ts, 1, size⟩
  | some held =>
      if limits.window ≤ ts - held.start then ⟨ts, 1, size⟩
      else ⟨held.start, held.packets + 1, held.bytes + size⟩

def exceeded (limits : Limits) (counter : Counter) : Bool :=
  (0 < limits.maxPackets && limits.maxPackets < counter.packets) ||
    (0 < limits.maxBytes && limits.maxBytes < counter.bytes)

theorem arrive_opens {counter : Option Counter} {ts : UInt32}
    (opening : opens limits counter ts = true) (size : UInt32) :
    arrive limits counter ts size = ⟨ts, 1, size⟩ := by
  cases counter with
  | none => rfl
  | some held =>
      have late : limits.window ≤ ts - held.start := of_decide_eq_true opening
      exact if_pos late

theorem arrive_continues {held : Counter} {ts : UInt32}
    (going : opens limits (some held) ts = false) (size : UInt32) :
    arrive limits (some held) ts size = ⟨held.start, held.packets + 1, held.bytes + size⟩ := by
  have early : ¬limits.window ≤ ts - held.start := of_decide_eq_false going
  exact if_neg early

theorem opens_or_continues (limits : Limits) (counter : Option Counter) (ts : UInt32) :
    opens limits counter ts = true ∨
      ∃ held, counter = some held ∧ opens limits (some held) ts = false := by
  cases counter with
  | none => exact Or.inl rfl
  | some held =>
      cases going : opens limits (some held) ts with
      | true => exact Or.inl rfl
      | false => exact Or.inr ⟨held, rfl, going⟩

/-! ## Totals of one window -/

/-- The sizes that arrived in a window are within the limits, counted exactly. -/
def Within (limits : Limits) (sizes : List UInt32) : Prop :=
  (0 < limits.maxPackets → sizes.length ≤ limits.maxPackets.toNat) ∧
    (0 < limits.maxBytes → (sizes.map UInt32.toNat).sum ≤ limits.maxBytes.toNat)

/-- A 32-bit total is over its limit. -/
def WordsExceed (limits : Limits) (sizes : List UInt32) : Prop :=
  (0 < limits.maxPackets ∧ limits.maxPackets.toNat < sizes.length % 2 ^ 32) ∨
    (0 < limits.maxBytes ∧ limits.maxBytes.toNat < (sizes.map UInt32.toNat).sum % 2 ^ 32)

instance (limits : Limits) (sizes : List UInt32) : Decidable (Within limits sizes) :=
  inferInstanceAs (Decidable (_ ∧ _))

instance (limits : Limits) (sizes : List UInt32) : Decidable (WordsExceed limits sizes) :=
  inferInstanceAs (Decidable (_ ∨ _))

/-- The counter holds the totals of the sizes, up to wraparound. -/
structure Totals (counter : Counter) (sizes : List UInt32) : Prop where
  packets : counter.packets.toNat = sizes.length % 2 ^ 32
  bytes : counter.bytes.toNat = (sizes.map UInt32.toNat).sum % 2 ^ 32

theorem Totals.first (ts size : UInt32) : Totals ⟨ts, 1, size⟩ [size] := by
  constructor
  · rfl
  · have bound := size.toNat_lt
    simp only [List.map_cons, List.map_nil, List.sum_cons, List.sum_nil, Nat.add_zero]
    exact (Nat.mod_eq_of_lt bound).symm

theorem Totals.next {counter : Counter} {sizes : List UInt32} (totals : Totals counter sizes)
    (size : UInt32) :
    Totals ⟨counter.start, counter.packets + 1, counter.bytes + size⟩ (sizes ++ [size]) := by
  constructor
  · have one : (1 : UInt32).toNat = 1 := rfl
    rw [UInt32.toNat_add, totals.packets, one, List.length_append, List.length_singleton]
    omega
  · rw [UInt32.toNat_add, totals.bytes]
    simp only [List.map_append, List.map_cons, List.map_nil, List.sum_append, List.sum_cons,
      List.sum_nil]
    omega

theorem Totals.exceeded_iff {counter : Counter} {sizes : List UInt32}
    (totals : Totals counter sizes) :
    exceeded limits counter = true ↔ WordsExceed limits sizes := by
  unfold exceeded WordsExceed
  simp only [Bool.or_eq_true, Bool.and_eq_true, decide_eq_true_eq]
  rw [← totals.packets, ← totals.bytes, ← UInt32.lt_iff_toNat_lt, ← UInt32.lt_iff_toNat_lt]

/-- Wraparound only loses: a 32-bit total over the limit is an exact one over it. -/
theorem WordsExceed.not_within {sizes : List UInt32} (over32 : WordsExceed limits sizes) :
    ¬Within limits sizes := by
  intro within
  cases over32 with
  | inl packets =>
      have exact := within.1 packets.1
      have wrapped := Nat.mod_le sizes.length (2 ^ 32)
      omega
  | inr bytes =>
      have exact := within.2 bytes.1
      have wrapped := Nat.mod_le (sizes.map UInt32.toNat).sum (2 ^ 32)
      omega

theorem Within.of_append {first later : List UInt32} (within : Within limits (first ++ later)) :
    Within limits first := by
  obtain ⟨packets, bytes⟩ := within
  constructor
  · intro limited
    have total := packets limited
    rw [List.length_append] at total
    omega
  · intro limited
    have total := bytes limited
    rw [List.map_append, List.sum_append] at total
    omega

/-! ## Allowed arrivals on the time line -/

/-- The times in the half-open interval of one window length. -/
def inInterval (length start : Nat) (times : List Nat) : Nat :=
  times.countP fun time => decide (start ≤ time ∧ time < start + length)

theorem in_interval_append (length start : Nat) (first second : List Nat) :
    inInterval length start (first ++ second) =
      inInterval length start first + inInterval length start second :=
  List.countP_append

theorem in_interval_le (length start : Nat) (times : List Nat) :
    inInterval length start times ≤ times.length :=
  List.countP_le_length

theorem in_interval_zero {length start : Nat} {times : List Nat}
    (outside : ∀ time ∈ times, time < start ∨ start + length ≤ time) :
    inInterval length start times = 0 := by
  apply List.countP_eq_zero.mpr
  intro time member
  have apart := outside time member
  simp only [decide_eq_true_eq]
  omega

/-- The time at which a 32-bit clock shows a window as over is at least a window behind
its start. -/
theorem elapsed_of_opens {held : Counter} {start now : Nat}
    (isStart : held.start = UInt32.ofNat start) (later : start ≤ now)
    (opening : opens limits (some held) (UInt32.ofNat now) = true) :
    start + limits.window.toNat ≤ now := by
  have late : limits.window ≤ UInt32.ofNat now - held.start := of_decide_eq_true opening
  have lateNat := UInt32.le_iff_toNat_le.mp late
  rw [isStart, UInt32.toNat_sub, UInt32.toNat_ofNat', UInt32.toNat_ofNat'] at lateNat
  omega

theorem inside_of_continues {held : Counter} {start now : Nat}
    (isStart : held.start = UInt32.ofNat start) (later : start ≤ now) (small : now < 2 ^ 32)
    (going : opens limits (some held) (UInt32.ofNat now) = false) :
    now < start + limits.window.toNat := by
  have early : ¬limits.window ≤ UInt32.ofNat now - held.start := of_decide_eq_false going
  rw [isStart, UInt32.le_iff_toNat_le, UInt32.toNat_sub, UInt32.toNat_ofNat',
    UInt32.toNat_ofNat'] at early
  omega

/-- The allowed arrivals up to now, by window: those of the current window, those of the
window before it, and older ones, which are a whole window behind the current start. -/
structure Pace (limits : Limits) (held : Counter) (now start : Nat)
    (older previous current : List Nat) : Prop where
  isStart : held.start = UInt32.ofNat start
  started : start ≤ now
  olderEarly : ∀ time ∈ older, time + limits.window.toNat ≤ start
  previousEarly : ∀ time ∈ previous, time ≤ start
  currentInside : ∀ time ∈ current, start ≤ time ∧ time ≤ now
  previousFew : previous.length ≤ limits.maxPackets.toNat
  currentFew : current.length ≤ limits.maxPackets.toNat
  counted : current.length ≤ held.packets.toNat
  bounded : ∀ begin, inInterval limits.window.toNat begin (older ++ previous) ≤
    2 * limits.maxPackets.toNat

/-- An interval that reaches the current window has left the older ones behind. -/
theorem Pace.all_bounded {held : Counter} {now start : Nat} {older previous current : List Nat}
    (pace : Pace limits held now start older previous current) (begin : Nat) :
    inInterval limits.window.toNat begin (older ++ previous ++ current) ≤
      2 * limits.maxPackets.toNat := by
  rw [in_interval_append]
  by_cases before : begin + limits.window.toNat ≤ start
  · have noneCurrent : inInterval limits.window.toNat begin current = 0 := by
      apply in_interval_zero
      intro time member
      have inside := (pace.currentInside time member).1
      omega
    have bound := pace.bounded begin
    omega
  · have noneOlder : inInterval limits.window.toNat begin older = 0 := by
      apply in_interval_zero
      intro time member
      have early := pace.olderEarly time member
      omega
    have fewPrevious := in_interval_le limits.window.toNat begin previous
    have fewCurrent := in_interval_le limits.window.toNat begin current
    have few := pace.previousFew
    have fewNow := pace.currentFew
    rw [in_interval_append]
    omega

/-- The allowed times behind a counter, if there is one. -/
def Paced (limits : Limits) (counter : Option Counter) (now : Nat) (allowed : List Nat) : Prop :=
  match counter with
  | none => allowed = []
  | some held => ∃ start older previous current,
      allowed = older ++ previous ++ current ∧
        Pace limits held now start older previous current

theorem Paced.bounded {counter : Option Counter} {now : Nat} {allowed : List Nat}
    (paced : Paced limits counter now allowed) (begin : Nat) :
    inInterval limits.window.toNat begin allowed ≤ 2 * limits.maxPackets.toNat := by
  cases counter with
  | none =>
      cases paced
      exact Nat.zero_le _
  | some held =>
      obtain ⟨start, older, previous, current, rfl, pace⟩ := paced
      exact pace.all_bounded begin

theorem Paced.wait {counter : Option Counter} {now later : Nat} {allowed : List Nat}
    (paced : Paced limits counter now allowed) (order : now ≤ later) :
    Paced limits counter later allowed := by
  cases counter with
  | none => exact paced
  | some held =>
      obtain ⟨start, older, previous, current, split, pace⟩ := paced
      refine ⟨start, older, previous, current, split, { pace with
        started := pace.started.trans order
        currentInside := ?_ }⟩
      intro time member
      have inside := pace.currentInside time member
      exact ⟨inside.1, inside.2.trans order⟩

theorem few_of_allowed (limited : 0 < limits.maxPackets) {counter : Counter}
    (allowed : exceeded limits counter = false) :
    counter.packets.toNat ≤ limits.maxPackets.toNat := by
  unfold exceeded at allowed
  simp only [Bool.or_eq_false_iff, limited, decide_true, Bool.true_and,
    decide_eq_false_iff_not] at allowed
  have few := allowed.1
  rw [UInt32.lt_iff_toNat_lt] at few
  omega

def allowedTime (limits : Limits) (counter : Counter) (now : Nat) : List Nat :=
  if exceeded limits counter then [] else [now]

theorem mem_allowed_time {counter : Counter} {now time : Nat}
    (member : time ∈ allowedTime limits counter now) :
    time = now ∧ exceeded limits counter = false := by
  unfold allowedTime at member
  split_ifs at member with refused
  · cases member
  · exact ⟨List.mem_singleton.mp member, Bool.eq_false_iff.mpr refused⟩

theorem allowed_time_length (counter : Counter) (now : Nat) :
    (allowedTime limits counter now).length ≤ 1 := by
  unfold allowedTime
  split_ifs
  · exact Nat.zero_le 1
  · exact Nat.le_refl 1

theorem Paced.opened (limited : 0 < limits.maxPackets) {counter : Option Counter}
    {before now : Nat} {allowed : List Nat} (paced : Paced limits counter before allowed)
    (order : before ≤ now) (opening : opens limits counter (UInt32.ofNat now) = true)
    (size : UInt32) :
    Paced limits (some ⟨UInt32.ofNat now, 1, size⟩) now
      (allowed ++ allowedTime limits ⟨UInt32.ofNat now, 1, size⟩ now) := by
  have positive : 0 < limits.maxPackets.toNat := UInt32.lt_iff_toNat_lt.mp limited
  have few := @allowed_time_length limits ⟨UInt32.ofNat now, 1, size⟩ now
  have inside : ∀ time ∈ allowedTime limits ⟨UInt32.ofNat now, 1, size⟩ now,
      now ≤ time ∧ time ≤ now := by
    intro time member
    have isNow := (mem_allowed_time member).1
    omega
  cases counter with
  | none =>
      cases paced
      refine ⟨now, [], [], _, rfl, ⟨rfl, Nat.le_refl now, ?_, ?_, inside, Nat.zero_le _,
        few.trans positive, few, fun _ => Nat.zero_le _⟩⟩
      · intro time member
        cases member
      · intro time member
        cases member
  | some held =>
      obtain ⟨start, older, previous, current, rfl, pace⟩ := paced
      have elapsed := elapsed_of_opens pace.isStart (pace.started.trans order) opening
      refine ⟨now, older ++ previous, current, _, rfl, ⟨rfl, Nat.le_refl now, ?_, ?_, inside,
        pace.currentFew, few.trans positive, few, pace.all_bounded⟩⟩
      · intro time member
        cases List.mem_append.mp member with
        | inl old =>
            have early := pace.olderEarly time old
            omega
        | inr recent =>
            have early := pace.previousEarly time recent
            omega
      · intro time member
        exact (pace.currentInside time member).2.trans order

/-- The window goes on, and its packet count does not wrap around. -/
theorem Paced.continued (limited : 0 < limits.maxPackets) {held : Counter} {before now : Nat}
    {allowed : List Nat} (paced : Paced limits (some held) before allowed)
    (order : before ≤ now) (fits : held.packets.toNat + 1 < 2 ^ 32) (size : UInt32) :
    Paced limits (some ⟨held.start, held.packets + 1, held.bytes + size⟩) now
      (allowed ++
        allowedTime limits ⟨held.start, held.packets + 1, held.bytes + size⟩ now) := by
  obtain ⟨start, older, previous, current, rfl, pace⟩ := paced.wait order
  have one : ((1 : UInt32)).toNat = 1 := rfl
  have next : (held.packets + 1).toNat = held.packets.toNat + 1 := by
    rw [UInt32.toNat_add, one, Nat.mod_eq_of_lt fits]
  have counted := pace.counted
  have single := @allowed_time_length limits
    ⟨held.start, held.packets + 1, held.bytes + size⟩ now
  refine ⟨start, older, previous, current ++ _, by rw [List.append_assoc], { pace with
    isStart := pace.isStart
    currentInside := ?_
    currentFew := ?_
    counted := ?_ }⟩
  · intro time member
    cases List.mem_append.mp member with
    | inl earlier => exact pace.currentInside time earlier
    | inr last =>
        rw [(mem_allowed_time last).1]
        exact ⟨pace.started, Nat.le_refl now⟩
  · unfold allowedTime
    split_ifs with refused
    · rw [List.append_nil]
      exact pace.currentFew
    · have few := few_of_allowed limited (Bool.eq_false_iff.mpr refused)
      rw [List.length_append, List.length_singleton]
      simp only [next] at few
      omega
  · rw [List.length_append]
    simp only [next]
    omega

/-! ## All arrivals on the time line -/

/-- The counter knows how many of the arrivals are in the current window, and all of these
lie within one window length. -/
def Tallied (limits : Limits) (counter : Option Counter) (now : Nat) (times : List Nat) : Prop :=
  ∀ held, counter = some held → ∃ start earlier current,
    times = earlier ++ current ∧ held.start = UInt32.ofNat start ∧ start ≤ now ∧
      held.packets.toNat = current.length ∧
      ∀ time ∈ current, start ≤ time ∧ time < start + limits.window.toNat

theorem Tallied.wait {counter : Option Counter} {now later : Nat} {times : List Nat}
    (tallied : Tallied limits counter now times) (order : now ≤ later) :
    Tallied limits counter later times := by
  intro held isHeld
  obtain ⟨start, earlier, current, split, isStart, started, counted⟩ := tallied held isHeld
  exact ⟨start, earlier, current, split, isStart, started.trans order, counted⟩

theorem Tallied.opened (positive : 0 < limits.window.toNat) (now : Nat) (times : List Nat)
    (size : UInt32) :
    Tallied limits (some ⟨UInt32.ofNat now, 1, size⟩) now (times ++ [now]) := by
  intro held isHeld
  cases isHeld
  refine ⟨now, times, [now], rfl, rfl, Nat.le_refl now, rfl, ?_⟩
  intro time member
  rw [List.mem_singleton.mp member]
  omega

/-- Few arrivals in each window length are too few for the count to wrap around. -/
theorem Tallied.continued {held : Counter} {before now : Nat} {times : List Nat}
    (tallied : Tallied limits (some held) before times) (order : before ≤ now)
    (small : now < 2 ^ 32) (going : opens limits (some held) (UInt32.ofNat now) = false)
    (few : ∀ begin, inInterval limits.window.toNat begin (times ++ [now]) < 2 ^ 32)
    (size : UInt32) :
    held.packets.toNat + 1 < 2 ^ 32 ∧
      Tallied limits (some ⟨held.start, held.packets + 1, held.bytes + size⟩) now
        (times ++ [now]) := by
  obtain ⟨start, earlier, current, rfl, isStart, started, counted, inside⟩ := tallied held rfl
  have later := started.trans order
  have insideNow := inside_of_continues isStart later small going
  have insideAll : ∀ time ∈ current ++ [now],
      start ≤ time ∧ time < start + limits.window.toNat := by
    intro time member
    cases List.mem_append.mp member with
    | inl old => exact inside time old
    | inr new =>
        rw [List.mem_singleton.mp new]
        exact ⟨later, insideNow⟩
  have all : inInterval limits.window.toNat start (current ++ [now]) = current.length + 1 := by
    rw [inInterval, List.countP_eq_length.mpr (fun time member => by
      simpa using insideAll time member), List.length_append, List.length_singleton]
  have total := few start
  rw [List.append_assoc, in_interval_append, all] at total
  have fits : held.packets.toNat + 1 < 2 ^ 32 := by omega
  have one : ((1 : UInt32)).toNat = 1 := rfl
  apply And.intro fits
  intro next isNext
  cases isNext
  refine ⟨start, earlier, current ++ [now], by rw [List.append_assoc], isStart, later, ?_,
    insideAll⟩
  rw [UInt32.toNat_add, one, Nat.mod_eq_of_lt fits, counted, List.length_append,
    List.length_singleton]

end FixedWindow
