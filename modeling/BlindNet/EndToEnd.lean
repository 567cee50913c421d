import BlindNet.NetworkPublications
import BlindNet.Fragmenters
import BlindNet.LocalPublish
import BlindNet.LedDevice

/-!
# From the client to the LED

A command built by the Python client, cut into fragments, flooded through a network of
Guardians, digested, published to the local broker and read by the sketch. Each part is
modelled from its own source; here they are put one behind the other.
-/

namespace BlindNet

set_option autoImplicit false

open ByteLayout RecencyRing MessageNetwork PillTools

theorem client_pill_frames (pill : ActionPill) (messageId : MessageId) :
    buildG2gFragments (ActionPill.layout.encode pill) messageId.toList =
      .ok (pillFrames pill messageId) := by
  rw [client_fragments (pill_sendable pill).short, pill_fragment_count]
  rfl

section Command

variable {PrivateKey : Type} {crypto : Crypto} {client : Client PrivateKey} {random : Urandom}
  {arguments : BuildArguments PrivateKey} {build : ActionPillBuild} {issuerPublicKey : Bytes}
  {secret : ByteArr 32} {deviceId : String}

/-- The Guardian a command is meant for: it has the issuer's key and has not met the
pill, its membrane lets the command through, and the frames arrive before the pill
expires. -/
structure Addressee (crypto : Crypto) (client : Client PrivateKey)
    (arguments : BuildArguments PrivateKey) (build : ActionPillBuild) (issuerPublicKey : Bytes)
    (secret : ByteArr 32) (deviceId : String) (pipeline : ActionPipeline)
    (arrived : List (Bytes × Environment)) : Prop where
  issuer : pipeline.issuerKeyId.toList = build.issuerKeyId
  key : pipeline.issuerPublicKey = issuerPublicKey
  new : build.messageId ∉ pipeline.stomach.cpCache.recent
  ready : ∀ acid ∈ aminoAcids, acid.name = client.upper arguments.amino →
    ReadyFor crypto pipeline.membrane (ActionPill.layout.decode build.actionPill) deviceId secret
      arguments.epoch acid.id
  timely : ∀ item ∈ arrived, ((nowMs item.2.timerUs).toNat : Int) ≤ arguments.expiresMs

theorem addressee_publishes {topic : String} {pipeline : ActionPipeline}
    {arrived : List (Bytes × Environment)}
    (returned : buildActionPill client random arguments = .ok build)
    (command : arguments.emptyActive = false)
    (sound : Sound random arguments build secret deviceId topic)
    (compatible : Compatible crypto client arguments.privateKey issuerPublicKey)
    (keyPresent : issuerPublicKey ≠ [])
    (addressee : Addressee crypto client arguments build issuerPublicKey secret deviceId pipeline
      arrived) {frame : Bytes} {env : Environment} (arrives : (frame, env) ∈ arrived) :
    (pipeline.digestAndPublish crypto env (ActionPill.layout.decode build.actionPill)).2 =
      [⟨clientRequest deviceId topic arguments.value, mqttBrokerPublishToClient env.broker
        (clientRequest deviceId topic arguments.value)⟩] := by
  rcases build_action_pill_command returned command sound.secretGiven sound.deviceGiven
    sound.topicGiven with ⟨acid, keyLen, pill, built⟩
  have readBack : ActionPill.layout.decode build.actionPill = pill := by
    rw [built.image, ActionPill.layout.decode_encode]
  have ready := addressee.ready acid built.listed built.named
  have key := addressee.key
  subst key
  have authorised := built.authorised compatible sound keyPresent
    (addressee.timely (frame, env) arrives) addressee.issuer
  rw [readBack] at ready ⊢
  rw [built.published compatible sound authorised ready]

/-- The whole way of one command. The client's fragments flood a network of Guardians,
and the run has settled. Then the addressee calls its broker exactly once, on the
arrival of one of the frames, with the topic of the LED and the command's value. If the
call succeeds, the broker has read a PUBLISH with this payload behind the CONNECT, and a
device whose session is up then shows, on its pin and in its retained state, what the
value asks for; without a value that is a toggle, whatever the amino acid. -/
theorem command_reaches_led {PrivateKey : Type} (crypto : Crypto) (client : Client PrivateKey)
    (random : Urandom) (arguments : BuildArguments PrivateKey) (build : ActionPillBuild)
    (issuerPublicKey : Bytes) (secret : ByteArr 32) (deviceId : String)
    (returned : buildActionPill client random arguments = .ok build)
    (command : arguments.emptyActive = false)
    (sound : Sound random arguments build secret deviceId "blindnet/lamp01/cmd")
    (compatible : Compatible crypto client arguments.privateKey issuerPublicKey)
    (keyPresent : issuerPublicKey ≠ []) {Party : Type} [DecidableEq Party]
    (link : Option Party → Party → Bool) (start : Party → Guardian)
    (actions : List (NetworkAction Party))
    (flood : SettledFlood crypto link start
      (fun _ : Fin 1 => ActionPill.layout.decode build.actionPill) (fun _ => build.messageId)
      actions)
    (party : Party) (connected : Connected link party) (pipeline : ActionPipeline)
    (holds : (start party).core.pipeline = some pipeline)
    (addressee : Addressee crypto client arguments build issuerPublicKey secret deviceId pipeline
      (eventsOf party (arrivedFrames crypto link ⟨start, []⟩ actions))) :
    buildG2gFragments build.actionPill build.messageId.toList =
        .ok (pillFrames (ActionPill.layout.decode build.actionPill) build.messageId) ∧
    ∃ env : Environment,
      (∃ index < 3,
        (pillFrame (ActionPill.layout.decode build.actionPill) build.messageId index, env) ∈
          eventsOf party (arrivedFrames crypto link ⟨start, []⟩ actions)) ∧
      publicationsOf (eventsOf party (runNetwork crypto link ⟨start, []⟩ actions).2) =
        [⟨clientRequest deviceId "blindnet/lamp01/cmd" arguments.value,
          mqttBrokerPublishToClient env.broker
            (clientRequest deviceId "blindnet/lamp01/cmd" arguments.value)⟩] ∧
      ∀ socket memory running maxPayloadLen,
        env.broker = LocalSocket.broker socket memory running maxPayloadLen →
        mqttBrokerPublishToClient env.broker
          (clientRequest deviceId "blindnet/lamp01/cmd" arguments.value) = .ok () →
        ∃ outcome afterConnect rest,
          localMqttPublish socket memory (commandTopic ++ [0]) (payloadText arguments.value) 0
            false = .ok outcome ∧
          Mqtt.readPacket outcome.stream = some (⟨1, 0, connectBody⟩, afterConnect) ∧
          Mqtt.readPublish afterConnect = some (⟨false, 0, false, commandTopic, none,
            payloadText arguments.value⟩, rest) ∧
          ∀ inputs, (LedDevice.runDevice inputs).1.connected = true →
            (LedDevice.runDevice (inputs ++
              [.message commandTopic (payloadText arguments.value)])).1.Shown
              (LedDevice.runDevice (inputs ++
                [.message commandTopic (payloadText arguments.value)])).2 ∧
            (LedDevice.runDevice (inputs ++
              [.message commandTopic (payloadText arguments.value)])).1 =
              ⟨LedDevice.ledAfter arguments.value (LedDevice.runDevice inputs).1.ledOn, true⟩ := by
  rcases build_action_pill_command returned command sound.secretGiven sound.deviceGiven
    sound.topicGiven with ⟨acid, keyLen, pill, built⟩
  refine ⟨?_, ?_⟩
  · rw [built.image, ActionPill.layout.decode_encode]
    exact client_pill_frames pill build.messageId
  · rcases flood.order connected with ⟨order, same, complete, run⟩
    rcases publications_schedule_free (flood.takesIn party) flood.distinct flood.digests holds
      (fun _ => addressee.new) order complete with ⟨envs, origins, published⟩
    rcases origins 0 with ⟨index, member⟩
    have arrives := List.mem_map_of_mem
      (f := fun entry => ((frameOf (fun _ : Fin 1 => ActionPill.layout.decode build.actionPill)
        (fun _ => build.messageId) entry).frame, entry.2.2)) member
    rw [same] at arrives
    have alone := addressee_publishes returned command sound compatible keyPresent addressee
      arrives
    have single : digestedAlone crypto pipeline
        (fun _ : Fin 1 => ActionPill.layout.decode build.actionPill)
        ((List.finRange 1).map fun which => (which, envs which)) =
          (pipeline.digestAndPublish crypto (envs 0)
            (ActionPill.layout.decode build.actionPill)).2 := by
      simp [digestedAlone, List.finRange_succ]
    rw [run, single, alone, List.perm_singleton] at published
    refine ⟨envs 0, ⟨index, index.isLt, arrives⟩, published, ?_⟩
    intro socket memory running maxPayloadLen uses accepted
    rw [uses] at accepted
    have small : (payloadText arguments.value).length ≤ mqttBrokerPayloadMaxLen :=
      le_trans (LedDevice.payload_text_length built.range) (by decide)
    rcases @published_request_on_wire socket memory running maxPayloadLen
        (clientRequest deviceId "blindnet/lamp01/cmd" arguments.value)
        (show commandTopic.length ≤ mqttBrokerTopicLen by decide)
        (show ∀ byte ∈ commandTopic, byte ≠ 0 by decide +kernel) small accepted with
      ⟨outcome, afterConnect, rest, sent, session, message⟩
    refine ⟨outcome, afterConnect, rest, sent, session, message, ?_⟩
    intro inputs up
    exact ⟨LedDevice.shown_run _, LedDevice.run_device_command built.range up⟩

end Command

/-- The bench with a local broker that takes what it is sent. -/
def wiredEnvironment : Environment :=
  { benchEnvironment with broker := openSocket.broker clearedMemory true 100 }

def wiredFlood : List (NetworkAction Bool) :=
  floodOf wiredEnvironment
    (interleavedFrames (fun _ : Fin 1 => lampPill) fun _ => lampBuild.messageId)

theorem wired_flood_settled :
    SettledFlood benchCrypto lampLink (fun _ => lampGuardian) (fun _ : Fin 1 => lampPill)
      (fun _ => lampBuild.messageId) wiredFlood :=
  flood_of_settled (by decide) (fun _ => lamp_pill_digest) (Function.injective_of_subsingleton _)
    (by decide) (by decide +kernel)

theorem lamp_command_reaches_led :
    publicationsOf (eventsOf false (runNetwork benchCrypto lampLink ⟨fun _ => lampGuardian, []⟩
      wiredFlood).2) = [lampPublication] ∧
    ∃ outcome afterConnect rest,
      localMqttPublish openSocket clearedMemory (commandTopic ++ [0]) [] 0 false = .ok outcome ∧
      Mqtt.readPacket outcome.stream = some (⟨1, 0, connectBody⟩, afterConnect) ∧
      Mqtt.readPublish afterConnect = some (⟨false, 0, false, commandTopic, none, []⟩, rest) ∧
      (LedDevice.runDevice [.connectMqtt true, .message commandTopic []]).1 = ⟨true, true⟩ := by
  have timely : ∀ item ∈ eventsOf false (arrivedFrames benchCrypto lampLink
      ⟨fun _ => lampGuardian, []⟩ wiredFlood),
      ((nowMs item.2.timerUs).toNat : Int) ≤ lampArguments.expiresMs := by
    intro item arrived
    rw [flood_of_env arrived]
    decide
  have addressee : Addressee benchCrypto benchClient lampArguments lampBuild
      lampPipeline.issuerPublicKey lampSecret "lamp01" lampPipeline
      (eventsOf false (arrivedFrames benchCrypto lampLink ⟨fun _ => lampGuardian, []⟩
        wiredFlood)) := by
    refine ⟨by decide +kernel, rfl, by simp [lampPipeline, Stomach.new], ?_, timely⟩
    intro acid listed named
    have every : ∀ acid ∈ aminoAcids, acid.name = "TOGGLE" → acid.id = aminoToggle := by decide
    rw [every acid listed named]
    exact lamp_ready _
  rcases (command_reaches_led benchCrypto benchClient lampRandom lampArguments lampBuild
    lampPipeline.issuerPublicKey lampSecret "lamp01" lamp_build_returned rfl lamp_sound
    (bench_compatible _) (by decide +kernel) lampLink (fun _ => lampGuardian) wiredFlood
    wired_flood_settled false (lamp_link_connected false) lampPipeline rfl addressee).2
    with ⟨env, ⟨index, -, arrived⟩, published, onWire⟩
  have wired : env = wiredEnvironment := flood_of_env arrived
  subst wired
  have accepted : mqttBrokerPublishToClient wiredEnvironment.broker
      (clientRequest "lamp01" "blindnet/lamp01/cmd" lampArguments.value) = .ok () := by
    decide +kernel
  rcases onWire openSocket clearedMemory true 100 rfl accepted with
    ⟨outcome, afterConnect, rest, sent, session, message, shows⟩
  refine ⟨?_, outcome, afterConnect, rest, sent, session, message, ?_⟩
  · rw [accepted] at published
    exact published
  · exact (shows [.connectMqtt true] rfl).2

end BlindNet
