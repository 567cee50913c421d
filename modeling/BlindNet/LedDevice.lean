import BlindNet.ClientImages
import BlindNet.Lib.Machine

/-!
# The LED device

The Arduino sketch behind a Guardian: one LED, switched by messages on its command
topic, whose state is published as a retained message. The MQTT library calls the
sketch back while the session is up, and a publication without a session is lost.
-/

namespace BlindNet

set_option autoImplicit false

open ByteLayout

def commandTopic : Bytes := CString.utf8 "blindnet/lamp01/cmd"
def stateTopic : Bytes := CString.utf8 "blindnet/lamp01/state"

structure LedDevice where
  ledOn : Bool
  connected : Bool
  deriving DecidableEq

inductive LedInput where
  /-- A message that the session delivers. -/
  | message (topic payload : Bytes)
  /-- The session breaks. -/
  | lost
  /-- An attempt of `connectMqtt`, and what `mqtt.connect` answers. -/
  | connectMqtt (accepted : Bool)

inductive LedEvent where
  | digitalWrite (high : Bool)
  | published (message : MqttMessage)
  | subscribed (topic : Bytes)
  deriving DecidableEq

namespace LedDevice

def stateMessage (ledOn : Bool) : MqttMessage :=
  ⟨stateTopic, CString.utf8 (if ledOn then "1" else "0"), true⟩

def publishState (device : LedDevice) : List LedEvent :=
  if device.connected then [.published (stateMessage device.ledOn)] else []

def setLed (on : Bool) (device : LedDevice) : LedDevice × List LedEvent :=
  let next := { device with ledOn := on }
  (next, .digitalWrite on :: next.publishState)

def upperByte (byte : UInt8) : UInt8 :=
  if 97 ≤ byte ∧ byte ≤ 122 then byte - 97 + 65 else byte

def payloadEquals (payload text : Bytes) : Bool :=
  if payload.length ≠ text.length then
    false
  else
    (payload.zip text).all fun (a, b) => upperByte a == upperByte b

def onMqttMessage (topic payload : Bytes) (device : LedDevice) : LedDevice × List LedEvent :=
  if topic ≠ commandTopic then
    (device, [])
  else if payload.length = 0 ∨ payloadEquals payload (CString.utf8 "TOGGLE") then
    device.setLed (!device.ledOn)
  else if payloadEquals payload (CString.utf8 "1") ∨ payloadEquals payload (CString.utf8 "ON") then
    device.setLed true
  else if payloadEquals payload (CString.utf8 "0") ∨ payloadEquals payload (CString.utf8 "OFF") then
    device.setLed false
  else
    (device, [])

/-- `connectMqtt`, which subscribes and publishes the state once the session is up. -/
def connectMqtt (accepted : Bool) (device : LedDevice) : LedDevice × List LedEvent :=
  if device.connected then
    (device, [])
  else if !accepted then
    (device, [])
  else
    let next := { device with connected := true }
    (next, .subscribed commandTopic :: next.publishState)

/-- The part of `setup` that concerns the LED: it is switched off without a session. -/
def setup : LedDevice × List LedEvent :=
  setLed false ⟨false, false⟩

def step (device : LedDevice) : LedInput → LedDevice × List LedEvent
  | .message topic payload =>
      if device.connected then device.onMqttMessage topic payload else (device, [])
  | .lost => ({ device with connected := false }, [])
  | .connectMqtt accepted => device.connectMqtt accepted

/-! ## What the outside sees -/

def pinOf : LedEvent → Option Bool
  | .digitalWrite high => some high
  | .published _ | .subscribed _ => none

def retainedOf : LedEvent → Option MqttMessage
  | .published message => some message
  | .digitalWrite _ | .subscribed _ => none

/-- The pin was last written with the state of the LED, and while the session is up the
retained message says the same. -/
structure Shown (device : LedDevice) (events : List LedEvent) : Prop where
  pin : (events.filterMap pinOf).getLast? = some device.ledOn
  retained : device.connected = true →
    (events.filterMap retainedOf).getLast? = some (stateMessage device.ledOn)

theorem shown_setup : setup.1.Shown setup.2 := by
  constructor
  · rfl
  · intro up
    cases up

theorem shown_set_led (device : LedDevice) (events : List LedEvent) (on : Bool) :
    (device.setLed on).1.Shown (events ++ (device.setLed on).2) := by
  constructor
  · by_cases up : device.connected = true <;>
      simp [setLed, publishState, up, List.filterMap_cons, pinOf]
  · intro up
    have connected : device.connected = true := up
    simp [setLed, publishState, connected, List.filterMap_cons, retainedOf]

theorem shown_step (device : LedDevice) (events : List LedEvent) (input : LedInput)
    (shown : device.Shown events) :
    (device.step input).1.Shown (events ++ (device.step input).2) := by
  have same : device.Shown (events ++ []) := by
    rw [List.append_nil]
    exact shown
  cases input with
  | message topic payload =>
      simp only [step, onMqttMessage]
      split_ifs
      · exact same
      · exact shown_set_led device events _
      · exact shown_set_led device events _
      · exact shown_set_led device events _
      · exact same
      · exact same
  | lost =>
      rw [step, List.append_nil]
      refine ⟨shown.pin, ?_⟩
      intro up
      cases up
  | connectMqtt accepted =>
      simp only [step, connectMqtt]
      split_ifs
      · exact same
      · exact same
      · constructor
        · simp [publishState, List.filterMap_cons, pinOf, shown.pin]
        · intro _
          simp [publishState, List.filterMap_cons, retainedOf]

/-- The device after a run from `setup`, with all it did. -/
def runDevice (inputs : List LedInput) : LedDevice × List LedEvent :=
  let later := EventMachine.run step setup.1 inputs
  (later.1, setup.2 ++ later.2)

theorem shown_run (inputs : List LedInput) : (runDevice inputs).1.Shown (runDevice inputs).2 :=
  EventMachine.history_run step Shown shown_step setup.1 setup.2 inputs shown_setup

/-! ## Commands from a Guardian -/

theorem payload_equals_iff {payload text : Bytes} :
    payloadEquals payload text = true ↔ payload.map upperByte = text.map upperByte := by
  induction payload generalizing text with
  | nil => cases text <;> simp [payloadEquals]
  | cons first others induction =>
      cases text with
      | nil => simp [payloadEquals]
      | cons byte rest =>
          have tails := @induction rest
          unfold payloadEquals at tails ⊢
          rw [List.map_cons, List.map_cons, List.cons.injEq, ← tails]
          by_cases lengths : others.length = rest.length <;> simp [lengths]

/-- What the LED does on a command: a command without a value toggles it, 1 switches it
on, 0 switches it off, and every other value is ignored. -/
def ledAfter (value : Option Int) (ledOn : Bool) : Bool :=
  match value with
  | none => !ledOn
  | some number => if number = 1 then true else if number = 0 then false else ledOn

theorem signed_bytes {room : Nat} {number : Int} {byte : UInt8}
    (member : byte ∈ Decimal.signed room number) :
    CNumber.isDigit byte = true ∨ byte = Decimal.minus := by
  rcases List.mem_append.mp member with sign | digit
  · split_ifs at sign
    · exact Or.inr (List.mem_singleton.mp sign)
    · exact absurd sign List.not_mem_nil
  · exact Or.inl (Decimal.digits_are_digits (List.mem_reverse.mp digit))

/-- The text of an integer equals a text of capitals, digits and signs only literally. -/
theorem payload_equals_signed {number : Int} {text : Bytes}
    (capital : text.map upperByte = text) :
    payloadEquals (Decimal.signed i32ScratchLen number) text = true ↔
      Decimal.signed i32ScratchLen number = text := by
  have literal : (Decimal.signed i32ScratchLen number).map upperByte =
      Decimal.signed i32ScratchLen number := by
    have every : ∀ byte, CNumber.isDigit byte = true ∨ byte = Decimal.minus →
        upperByte byte = byte := forall_byte (by decide +kernel)
    conv_rhs => rw [← List.map_id (Decimal.signed i32ScratchLen number)]
    exact List.map_congr_left fun byte member => every byte (signed_bytes member)
  rw [payload_equals_iff, literal, capital]

def InRange (value : Option Int) : Prop :=
  ∀ number, value = some number → -2 ^ 31 ≤ number ∧ number < 2 ^ 31

theorem payload_text_signed {number : Int} (range : InRange (some number)) :
    number.natAbs < 10 ^ i32ScratchLen ∧
      payloadText (some number) = Decimal.signed i32ScratchLen number := by
  rcases range number rfl with ⟨low, high⟩
  have fits : number.natAbs < 10 ^ i32ScratchLen := by
    simp only [i32ScratchLen]
    omega
  exact ⟨fits, (Decimal.signed_text (by decide) number fits).symm⟩

theorem payload_text_length {value : Option Int} (range : InRange value) :
    (payloadText value).length ≤ i32ScratchLen + 1 := by
  cases value with
  | none => exact Nat.zero_le _
  | some number =>
      rw [(payload_text_signed range).2, Decimal.signed, List.length_append, List.length_reverse]
      have digits := Decimal.digits_length_le i32ScratchLen number.natAbs
      split_ifs
      · rw [List.length_singleton]
        omega
      · rw [List.length_nil]
        omega

/-- The payload of a built command does to the LED what the command's value says. -/
theorem on_mqtt_message_command {value : Option Int} (range : InRange value)
    (device : LedDevice) :
    (device.onMqttMessage commandTopic (payloadText value)).1 =
      { device with ledOn := ledAfter value device.ledOn } := by
  cases value with
  | none => rfl
  | some number =>
      rcases payload_text_signed range with ⟨fits, text⟩
      have word : ∀ word : Bytes, (∃ byte ∈ word, ¬ (CNumber.isDigit byte = true ∨
          byte = Decimal.minus)) → Decimal.signed i32ScratchLen number ≠ word := by
        rintro word ⟨byte, member, other⟩ same
        rw [← same] at member
        exact other (signed_bytes member)
      have digit : ∀ other : Int, other.natAbs < 10 ^ i32ScratchLen →
          (Decimal.signed i32ScratchLen number = Decimal.signed i32ScratchLen other ↔
            number = other) := by
        intro other otherFits
        exact ⟨Decimal.signed_injective fits otherFits, congrArg _⟩
      have one := digit 1 (by decide)
      have zero := digit 0 (by decide)
      have oneText : Decimal.signed i32ScratchLen 1 = CString.utf8 "1" := by decide
      have zeroText : Decimal.signed i32ScratchLen 0 = CString.utf8 "0" := by decide
      have present : (Decimal.signed i32ScratchLen number).length ≠ 0 := by
        intro empty
        exact Decimal.signed_ne_nil (by decide) number (List.length_eq_zero_iff.mp empty)
      rw [oneText] at one
      rw [zeroText] at zero
      rw [text]
      simp only [onMqttMessage, ne_eq, not_true_eq_false, if_false, present,
        payload_equals_signed (show (CString.utf8 "TOGGLE").map upperByte = _ by decide),
        payload_equals_signed (show (CString.utf8 "1").map upperByte = _ by decide),
        payload_equals_signed (show (CString.utf8 "ON").map upperByte = _ by decide),
        payload_equals_signed (show (CString.utf8 "0").map upperByte = _ by decide),
        payload_equals_signed (show (CString.utf8 "OFF").map upperByte = _ by decide),
        word _ (show ∃ byte ∈ CString.utf8 "TOGGLE", _ by decide),
        word _ (show ∃ byte ∈ CString.utf8 "ON", _ by decide),
        word _ (show ∃ byte ∈ CString.utf8 "OFF", _ by decide), one, zero, or_false, ledAfter]
      split_ifs <;> rfl

theorem run_device_command {value : Option Int} (range : InRange value) {inputs : List LedInput}
    (up : (runDevice inputs).1.connected = true) :
    (runDevice (inputs ++ [.message commandTopic (payloadText value)])).1 =
      ⟨ledAfter value (runDevice inputs).1.ledOn, true⟩ := by
  have session : (EventMachine.run step setup.1 inputs).1.connected = true := up
  have message := on_mqtt_message_command range (EventMachine.run step setup.1 inputs).1
  simp only [runDevice, EventMachine.run_append, EventMachine.run_cons, EventMachine.run_nil, step,
    session, if_true]
  rw [message, session]

end LedDevice

end BlindNet
