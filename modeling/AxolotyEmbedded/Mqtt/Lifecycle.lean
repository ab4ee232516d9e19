import AxolotyEmbedded.Bytes
import AxolotyEmbedded.Library.Transition

/-!
The MQTT client in Swift over the C carrier, one whole call at a time. Swift keeps
the lifecycle and C keeps the client handle; the label of an operation carries what
the ESP-MQTT functions return in it. The two agree until a teardown fails: C has
then destroyed its handle, and Swift keeps its session.
-/
namespace AxolotyEmbedded.Mqtt

/-- What the build fixes: the bounds, and `AXOLOTY_NETWORK_CONFIGURED`. -/
structure NetworkBuild extends CarrierBounds where
  networkConfigured : Bool

/-! ## The C carrier -/

/-- The carrier's functions. -/
inductive CarrierFunction where
  | configureLastWill | connectWait | subscribeWait | unsubscribe | publish | pollOneEvent
  | reconnectWait | disconnect
  deriving DecidableEq, Repr

/-- The handle, the last will, and the functions entered so far, oldest first. -/
structure ClientHandle where
  mqttClient : Bool
  willConfigured : Bool
  entered : List CarrierFunction
  deriving DecidableEq, Repr

/-- What one `connect_wait` meets: its strings and its identity, the three ESP-MQTT
calls, and whether CONNECTED comes before the deadline. -/
structure ConnectAnswers where
  formatted : Bool
  identity : Bool
  initialized : Bool
  registered : Bool
  started : Bool
  connected : Bool
  deriving DecidableEq, Repr

namespace ClientHandle
variable (c : ClientHandle) (build : NetworkBuild)

def enter (function : CarrierFunction) : ClientHandle := { c with entered := c.entered ++ [function] }

/-- `NETWORK_MAX_TOPIC` and `NETWORK_MAX_PAYLOAD` are one more than the bounds. -/
def configureLastWill (topic payload : List UInt8) : Bool × ClientHandle :=
  let c := c.enter .configureLastWill
  if build.networkConfigured = true ∧ topic ≠ [] ∧ topic.length < build.maxTopicBytes + 1 ∧
      payload.length < build.maxPayloadBytes + 1 ∧ c.mqttClient = false then
    (true, { c with willConfigured := true })
  else (false, c)

def connectWait (answers : ConnectAnswers) : Bool × ClientHandle :=
  let c := c.enter .connectWait
  if build.networkConfigured = true ∧ answers.formatted = true ∧ answers.identity = true then
    if answers.initialized = true ∧ answers.registered = true ∧ answers.started = true ∧
        answers.connected = true then
      (true, { c with mqttClient := true })
    else (false, { c with mqttClient := false })
  else (false, c)

/-- `acknowledged` is what the table, ESP-MQTT and the wait come to. -/
def subscribeWait (topic : List UInt8) (acknowledged : Bool) : Bool × ClientHandle :=
  (build.networkConfigured && c.mqttClient && !topic.isEmpty &&
    decide (topic.length < build.maxTopicBytes + 1) && acknowledged, c.enter .subscribeWait)

def unsubscribe (topic : List UInt8) (removed : Bool) : Bool × ClientHandle :=
  (build.networkConfigured && c.mqttClient && !topic.isEmpty &&
    decide (topic.length < build.maxTopicBytes + 1) && removed, c.enter .unsubscribe)

def publish (message : Message) (taken : Bool) : Bool × ClientHandle :=
  (build.networkConfigured && c.mqttClient && !message.key.isEmpty &&
    decide (message.key.length < build.maxTopicBytes + 1) &&
    decide (message.payload.length < build.maxPayloadBytes + 1) && taken, c.enter .publish)

def reconnectWait (recovered : Bool) : Bool × ClientHandle :=
  (build.networkConfigured && c.mqttClient && recovered, c.enter .reconnectWait)

/-- The handle is gone whatever stop and destroy return. -/
def disconnect (stopped destroyed : Bool) : Bool × ClientHandle :=
  let c := c.enter .disconnect
  if c.mqttClient then
    (stopped && destroyed, { c with
      mqttClient := false
      willConfigured := false })
  else (true, c)

end ClientHandle

/-! ## The Swift client -/

inductive ClientState where
  | idle | connected | subscribed | disconnected
  deriving DecidableEq, Repr

/-- One operation, with what the C carrier meets in it. -/
inductive ClientOp where
  | configureLastWill (topic payload : List UInt8)
  | connect (answers : ConnectAnswers)
  | subscribe (topic : List UInt8) (acknowledged : Bool)
  | unsubscribe (topic : List UInt8) (removed : Bool)
  | publish (message : Message) (taken : Bool)
  | pollOneEvent (topicCapacity payloadCapacity : Int)
  | waitForReconnect (recovered : Bool)
  | disconnect (stopped destroyed : Bool)
  deriving DecidableEq, Repr

/-- `EmbeddedMQTTClient` over its carrier; `disconnectCalled` says that the last
operation was a `disconnect()`. -/
structure EmbeddedMQTTClient where
  state : ClientState
  carrier : ClientHandle
  disconnectCalled : Bool
  deriving DecidableEq, Repr

namespace EmbeddedMQTTClient

def initial : EmbeddedMQTTClient := ⟨.idle, ⟨false, false, []⟩, false⟩

variable (build : NetworkBuild) (client : EmbeddedMQTTClient)

/-- A new session may start. -/
def Ended : Prop := client.state = .idle ∨ client.state = .disconnected

instance : Decidable client.Ended := inferInstanceAs (Decidable (_ ∨ _))

/-- Swift takes the client for connected or subscribed. -/
def Open : Prop := client.state = .connected ∨ client.state = .subscribed

instance : Decidable client.Open := inferInstanceAs (Decidable (_ ∨ _))

/-- The bounds every operation with a topic checks. -/
def TopicFits (topic : List UInt8) : Prop := topic ≠ [] ∧ topic.length ≤ build.maxTopicBytes

instance (topic : List UInt8) : Decidable (TopicFits build topic) :=
  inferInstanceAs (Decidable (_ ∧ _))

/-- The state after a call that moves to `next` when it succeeds. -/
def called (returned : Bool × ClientHandle) (next : ClientState) : EmbeddedMQTTClient :=
  { client with
    state := if returned.1 then next else client.state
    carrier := returned.2 }

def step (op : ClientOp) : EmbeddedMQTTClient :=
  let client := { client with disconnectCalled := false }
  match op with
  | .configureLastWill topic payload =>
      if client.Ended ∧ TopicFits build topic ∧ payload.length ≤ build.maxPayloadBytes then
        client.called (client.carrier.configureLastWill build topic payload) client.state
      else client
  | .connect answers =>
      if client.Ended then client.called (client.carrier.connectWait build answers) .connected
      else client
  | .subscribe topic acknowledged =>
      if client.Open ∧ TopicFits build topic then
        client.called (client.carrier.subscribeWait build topic acknowledged) .subscribed
      else client
  | .unsubscribe topic removed =>
      if client.state = .subscribed ∧ TopicFits build topic then
        client.called (client.carrier.unsubscribe build topic removed) client.state
      else client
  | .publish message taken =>
      if client.state = .subscribed ∧ TopicFits build message.key ∧
          message.payload.length ≤ build.maxPayloadBytes then
        client.called (client.carrier.publish build message taken) client.state
      else client
  | .pollOneEvent topicCapacity payloadCapacity =>
      if client.state = .subscribed ∧ 0 < topicCapacity ∧ topicCapacity ≤ build.maxTopicBytes ∧
          0 ≤ payloadCapacity ∧ payloadCapacity ≤ build.maxPayloadBytes then
        { client with carrier := client.carrier.enter .pollOneEvent }
      else client
  | .waitForReconnect recovered =>
      if client.state = .subscribed then
        client.called (client.carrier.reconnectWait build recovered) client.state
      else client
  | .disconnect stopped destroyed =>
      let client := { client with disconnectCalled := true }
      if client.Open then client.called (client.carrier.disconnect stopped destroyed) .disconnected
      else client

def after (ops : List ClientOp) : EmbeddedMQTTClient := ops.foldl (step build) initial

/-! ## Agreement -/

/-- Swift takes the client for connected or subscribed exactly when C has a handle. -/
def Agrees : Prop := client.Open ↔ client.carrier.mqttClient = true

instance : Decidable client.Agrees := inferInstanceAs (Decidable (_ ↔ _))

/-- A valid last will and a connect enter the C carrier. -/
def ReachesCarrier : Prop :=
  (∀ topic payload, TopicFits build topic → payload.length ≤ build.maxPayloadBytes →
    (client.step build (.configureLastWill topic payload)).carrier.entered =
      client.carrier.entered ++ [.configureLastWill]) ∧
  ∀ answers, (client.step build (.connect answers)).carrier.entered =
    client.carrier.entered ++ [.connectWait]

/-- The two layers are in step: they agree, and a new session can start after a
`disconnect()`. -/
structure InStep : Prop where
  agrees : client.Agrees
  reaches : client.disconnectCalled = true → client.ReachesCarrier build

/-- The operation is not a teardown that fails. -/
def TeardownSucceeds : ClientOp → Prop
  | .disconnect stopped destroyed =>
      client.carrier.mqttClient = true → stopped = true ∧ destroyed = true
  | _ => True

variable {build : NetworkBuild} {client : EmbeddedMQTTClient}

theorem ended_iff_not_open : client.Ended ↔ ¬ client.Open := by
  cases state : client.state <;> simp [Ended, Open, state]

/-! ## The invariant -/

structure Inv (client : EmbeddedMQTTClient) : Prop where
  agrees : client.Agrees
  ended : client.disconnectCalled = true → client.Ended

theorem Inv.initial : initial.Inv := ⟨by decide, nofun⟩

/-- A client that may start a session does reach the carrier. -/
theorem Inv.inStep (inv : client.Inv) : client.InStep build where
  agrees := inv.agrees
  reaches disconnected := by
    have ended := inv.ended disconnected
    constructor
    · intro topic payload fits bounded
      have admitted : ({ client with disconnectCalled := false } : EmbeddedMQTTClient).Ended ∧
          TopicFits build topic ∧ payload.length ≤ build.maxPayloadBytes := ⟨ended, fits, bounded⟩
      simp only [step, if_pos admitted, called, ClientHandle.configureLastWill]
      split <;> rfl
    · intro answers
      have admitted : ({ client with disconnectCalled := false } : EmbeddedMQTTClient).Ended := ended
      simp only [step, if_pos admitted, called, ClientHandle.connectWait]
      split
      · split <;> rfl
      · rfl

/-- A call that keeps the handle, and moves only within a session. -/
theorem agrees_called (agrees : client.Agrees) {returned : Bool × ClientHandle}
    {next : ClientState} (handle : returned.2.mqttClient = client.carrier.mqttClient)
    (within : next = client.state ∨ client.Open ∧ next = .subscribed) :
    (client.called returned next).Agrees := by
  rw [Agrees, called, handle]
  refine Iff.trans ?_ agrees
  cases within with
  | inl same => rw [same, ite_self, Open, Open]
  | inr opened =>
      obtain ⟨opened, rfl⟩ := opened
      refine iff_of_true ?_ opened
      rw [Open]
      dsimp only
      split
      · exact .inr rfl
      · exact opened

theorem mqttClient_configureLastWill (c : ClientHandle) (topic payload : List UInt8) :
    (c.configureLastWill build topic payload).2.mqttClient = c.mqttClient := by
  rw [ClientHandle.configureLastWill]
  split <;> rfl

/-- Where there was no handle, `connect_wait` returns 1 exactly when there is one. -/
theorem mqttClient_connectWait {c : ClientHandle} (none : c.mqttClient = false)
    (answers : ConnectAnswers) :
    (c.connectWait build answers).2.mqttClient = (c.connectWait build answers).1 := by
  rw [ClientHandle.connectWait]
  split
  · split <;> rfl
  · exact none

theorem Inv.connect (inv : client.Inv) (ended : client.Ended) (answers : ConnectAnswers) :
    (client.called (client.carrier.connectWait build answers) .connected).Agrees := by
  have closed := ended_iff_not_open.mp ended
  have none : client.carrier.mqttClient = false :=
    Bool.eq_false_iff.mpr fun held => closed (inv.agrees.mpr held)
  rw [Agrees, called, mqttClient_connectWait none, Open]
  cases (client.carrier.connectWait build answers).1 with
  | true => simp
  | false => simpa [Open] using closed

/-- A teardown of a client that C holds ends the session on both sides. -/
theorem Inv.disconnect (inv : client.Inv) (opened : client.Open) {stopped destroyed : Bool}
    (succeeds : client.TeardownSucceeds (.disconnect stopped destroyed)) :
    (client.called (client.carrier.disconnect stopped destroyed) .disconnected).Agrees ∧
      (client.called (client.carrier.disconnect stopped destroyed) .disconnected).Ended := by
  have held := inv.agrees.mp opened
  obtain ⟨rfl, rfl⟩ := succeeds held
  have torn : client.carrier.disconnect true true = (true, { client.carrier.enter .disconnect with
      mqttClient := false
      willConfigured := false }) := by
    rw [ClientHandle.disconnect]
    exact if_pos held
  rw [torn]
  exact ⟨by simp [Agrees, called, Open], .inr rfl⟩

theorem Inv.step {op : ClientOp} (inv : client.Inv) (succeeds : client.TeardownSucceeds op) :
    (client.step build op).Inv := by
  have agrees : ({ client with disconnectCalled := false } : EmbeddedMQTTClient).Agrees := inv.agrees
  have inv' : ({ client with disconnectCalled := false } : EmbeddedMQTTClient).Inv := ⟨agrees, nofun⟩
  cases op with
  | configureLastWill topic payload =>
      simp only [EmbeddedMQTTClient.step]
      split
      · exact ⟨agrees_called agrees (mqttClient_configureLastWill ..) (.inl rfl), nofun⟩
      · exact inv'
  | connect answers =>
      simp only [EmbeddedMQTTClient.step]
      split
      · rename_i ended
        exact ⟨inv'.connect ended answers, nofun⟩
      · exact inv'
  | subscribe topic acknowledged =>
      simp only [EmbeddedMQTTClient.step]
      split
      · rename_i admitted
        exact ⟨agrees_called agrees rfl (.inr ⟨admitted.1, rfl⟩), nofun⟩
      · exact inv'
  | unsubscribe topic _ | publish message _ | waitForReconnect _ =>
      simp only [EmbeddedMQTTClient.step]
      split
      · exact ⟨agrees_called agrees rfl (.inl rfl), nofun⟩
      · exact inv'
  | pollOneEvent topicCapacity payloadCapacity =>
      simp only [EmbeddedMQTTClient.step]
      split
      · exact ⟨agrees, nofun⟩
      · exact inv'
  | disconnect stopped destroyed =>
      simp only [EmbeddedMQTTClient.step]
      split
      · rename_i opened
        obtain ⟨agrees, ended⟩ := inv.disconnect opened succeeds
        exact ⟨agrees, fun _ => ended⟩
      · rename_i closed
        exact ⟨agrees, fun _ => ended_iff_not_open.mpr closed⟩

/-- A teardown that fails leaves Swift with a session and C without a handle. -/
theorem Inv.not_inStep {op : ClientOp} (inv : client.Inv) (fails : ¬ client.TeardownSucceeds op) :
    ¬ (client.step build op).InStep build := by
  cases op with
  | disconnect stopped destroyed =>
      simp only [TeardownSucceeds, Classical.not_imp] at fails
      obtain ⟨held, failed⟩ := fails
      have opened : client.Open := inv.agrees.mpr held
      have torn : client.carrier.disconnect stopped destroyed =
          (false, { client.carrier.enter .disconnect with
            mqttClient := false
            willConfigured := false }) := by
        have failing : (stopped && destroyed) = false :=
          Bool.eq_false_iff.mpr fun both => failed (Bool.and_eq_true_iff.mp both)
        rw [ClientHandle.disconnect, failing]
        exact if_pos held
      intro inStep
      have agrees := inStep.agrees
      simp only [EmbeddedMQTTClient.step] at agrees
      rw [if_pos (show ({ client with disconnectCalled := true } : EmbeddedMQTTClient).Open
        from opened)] at agrees
      simp only [called, torn] at agrees
      cases agrees.mp opened
  | _ => exact absurd trivial fails

/-- After every operation of a sequence the two layers are in step exactly when every
teardown in it of a client that C holds succeeds, both at stop and at destroy. -/
theorem inStep_iff_teardownSucceeds (ops : List ClientOp) :
    (∀ before, before <+: ops → (after build before).InStep build) ↔
      ∀ before op, before ++ [op] <+: ops → (after build before).TeardownSucceeds op :=
  Transition.forall_prefix_iff (EmbeddedMQTTClient.step build) EmbeddedMQTTClient.initial
    Inv.initial (fun inv succeeds => inv.step succeeds) Inv.inStep
    (fun inv fails => inv.not_inStep fails) ops

/-! ## A teardown that fails -/

/-- The smoke application's build. -/
def smokeBuild : NetworkBuild := { smokeBounds with networkConfigured := true }

/-- CONNECTED comes in time. -/
def connectingAnswers : ConnectAnswers := ⟨true, true, true, true, true, true⟩

/-- A client that stops and cannot be destroyed. -/
def tornDown : EmbeddedMQTTClient :=
  after smokeBuild [.connect connectingAnswers, .disconnect true false]

/-- Swift keeps its session, C has no handle, and a connect does not enter the carrier. -/
theorem stale_session : tornDown.disconnectCalled = true ∧ ¬ tornDown.Agrees ∧
    ¬ tornDown.ReachesCarrier smokeBuild := by
  refine ⟨rfl, by decide, fun reaches => ?_⟩
  have entered := reaches.2 connectingAnswers
  revert entered
  decide

end EmbeddedMQTTClient
end AxolotyEmbedded.Mqtt
