import AxolotyEmbedded.Bytes

/-!
The MQTT carrier between the application thread and the ESP-MQTT task. The
application runs one of `connect_wait`, `subscribe_wait`, `unsubscribe`,
`reconnect_wait` and `disconnect` at a time; the task runs `network_mqtt_event`
for one event at a time. Each atomic operation and each critical section is one
step, and any interleaving of the two is a run.
-/
namespace AxolotyEmbedded.Mqtt

abbrev Filter := List UInt8

def cString (bytes : List UInt8) : Filter := bytes.takeWhile fun byte => byte ≠ 0

def networkSubscriptionCapacity : Nat := 4

def networkMaxTopic (bounds : CarrierBounds) : Nat := bounds.maxTopicBytes + 1

/-! ## State -/

/-- The file's static state. `subscriptions` holds the first
`network_subscription_count` entries of the table. -/
structure MqttCarrier where
  mqttClient : Bool
  connectedBit : Bool
  resubscribedBit : Bool
  connectCount : BitVec 32
  subscriptions : List Filter
  subscriptionAckCount : BitVec 32
  reconnectBaseline : BitVec 32

inductive Sender where
  | call (number : Nat)
  | resubscription
  deriving DecidableEq, Repr

structure SentSubscribe where
  filter : Filter
  sender : Sender
  deriving DecidableEq, Repr

/-- The connection and the SUBSCRIBEs on it: those not acknowledged, the filters
acknowledged, and every SUBSCRIBE acknowledged on any connection, oldest first. -/
structure Connection where
  up : Bool
  outstanding : List SentSubscribe
  acknowledgedFilters : List Filter
  acknowledged : List SentSubscribe

/-- A call of `subscribe_wait` that has read the count; `since` is how many
SUBSCRIBEs had been acknowledged then. -/
structure SubscribeCall where
  number : Nat
  filter : Filter
  priorAcknowledgements : BitVec 32
  since : Nat

inductive AppPhase where
  | idle
  | connectDeadline | connectLoad | connectCheck | connectBaseline
  | subscribePrior (number : Nat) (filter : Filter)
  | subscribeClear (call : SubscribeCall) | subscribeSend (call : SubscribeCall)
  | subscribeDeadline (call : SubscribeCall) | subscribeLoad (call : SubscribeCall)
  | subscribeReturn (call : SubscribeCall)
  | unsubscribeSend (topic : Filter) | unsubscribeRemove (topic : Filter)
  | reconnectDeadline (expected : BitVec 32) | reconnectLoadCount (expected : BitVec 32)
  | reconnectLoadConnected (expected : BitVec 32) | reconnectLoadResubscribed (expected : BitVec 32)
  | reconnectCheckBits (expected : BitVec 32) | reconnectCheckCount (expected : BitVec 32)

inductive TaskPhase where
  | idle
  | connectedSet (connectCount : BitVec 32) | connectedReset | connectedClear | connectedCopy
  | resubscribing (rest : List Filter)
  | subscribedLoad (acknowledged : BitVec 32) | subscribedSet

structure SubscribeReturn where
  number : Nat
  filter : Filter
  since : Nat
  value : Bool
  deriving DecidableEq, Repr

/-- What held when a call of `reconnect_wait` returned 1. -/
structure Recovery where
  up : Bool
  subscriptions : List Filter
  acknowledgedFilters : List Filter
  deriving DecidableEq, Repr

/-- `recoveries` and `connectedEvents` are those since the last successful
`connect_wait`. -/
structure MqttSystem where
  carrier : MqttCarrier
  connection : Connection
  app : AppPhase
  task : TaskPhase
  calls : Nat
  returned : List SubscribeReturn
  recoveries : List Recovery
  connectedEvents : Nat

namespace MqttSystem

def initial : MqttSystem where
  carrier := ⟨false, false, false, 0, [], 0, 0⟩
  connection := ⟨false, [], [], []⟩
  app := .idle
  task := .idle
  calls := 0
  returned := []
  recoveries := []
  connectedEvents := 0

/-! ## The application thread -/

inductive ConnectStart where
  | rejected | failed | started
  deriving DecidableEq, Repr

variable (s : MqttSystem)

/-- A SUBSCRIBE that ESP-MQTT took reaches the connection, if there is one. -/
def send (message : SentSubscribe) : MqttSystem :=
  if s.connection.up then
    { s with connection := { s.connection with
      outstanding := s.connection.outstanding ++ [message] } }
  else s

@[simp] theorem app_send (message : SentSubscribe) : (s.send message).app = s.app := by
  rw [send]
  split <;> rfl

@[simp] theorem task_send (message : SentSubscribe) : (s.send message).task = s.task := by
  rw [send]
  split <;> rfl

@[simp] theorem carrier_send (message : SentSubscribe) : (s.send message).carrier = s.carrier := by
  rw [send]
  split <;> rfl

/-- The client is stopped and destroyed: the task is gone, and so is the connection. -/
def destroyClient : MqttSystem :=
  { s with
    carrier := { s.carrier with mqttClient := false }
    connection := { s.connection with
      up := false
      outstanding := []
      acknowledgedFilters := [] }
    task := .idle }

def resetMqttState : MqttSystem :=
  { s with carrier := { s.carrier with
    subscriptions := []
    subscriptionAckCount := 0
    reconnectBaseline := 0
    connectCount := 0 } }

/-- Until the client has started there is no task, so this much is one step. -/
def connectWait (start : ConnectStart) : MqttSystem :=
  let cleared := { s with carrier := { s.carrier with
    connectedBit := false
    resubscribedBit := false
    connectCount := 0
    subscriptionAckCount := 0 } }
  match start with
  | .rejected => s
  | .failed => cleared
  | .started => { cleared with
      carrier := { cleared.carrier with mqttClient := true }
      app := .connectDeadline }

def subscribeReturns (number : Nat) (filter : Filter) (since : Nat) (value : Bool) : MqttSystem :=
  { s with
    app := .idle
    returned := s.returned ++ [⟨number, filter, since, value⟩] }

/-- `subscribe_wait` up to the end of its critical section. -/
def subscribeWait (bounds : CarrierBounds) (topic : List UInt8) : MqttSystem :=
  let number := s.calls
  let s : MqttSystem := { s with calls := number + 1 }
  let refused := s.subscribeReturns number (cString topic) s.connection.acknowledged.length false
  if s.carrier.mqttClient = true ∧ topic ≠ [] ∧ topic.length < networkMaxTopic bounds then
    if topic ∈ s.carrier.subscriptions then { s with app := .subscribePrior number topic }
    else if networkSubscriptionCapacity ≤ s.carrier.subscriptions.length then refused
    else { s with
      carrier := { s.carrier with
        subscriptions := s.carrier.subscriptions ++ [cString topic] }
      app := .subscribePrior number (cString topic) }
  else refused

def unsubscribe (bounds : CarrierBounds) (topic : List UInt8) : MqttSystem :=
  if s.carrier.mqttClient = true ∧ topic ≠ [] ∧ topic.length < networkMaxTopic bounds ∧
      topic ∈ s.carrier.subscriptions then
    { s with app := .unsubscribeSend topic }
  else s

/-- `reconnect_wait` up to its loop. -/
def reconnectWait (networkActive : Bool) : MqttSystem :=
  if s.carrier.mqttClient = true ∧ networkActive = true ∧ s.carrier.subscriptions ≠ [] then
    { s with app := .reconnectDeadline (s.carrier.reconnectBaseline + 1) }
  else s

def disconnect : MqttSystem :=
  if s.carrier.mqttClient then s.destroyClient.resetMqttState else s

/-- The next operation of the running call. `answer` is whether the deadline is
still ahead, or whether ESP-MQTT takes the packet. -/
def stepApp (answer : Bool) : Option MqttSystem :=
  match s.app with
  | .idle => none
  | .connectDeadline => some { s with app := if answer then .connectLoad else .connectCheck }
  | .connectLoad =>
      some { s with app := if s.carrier.connectedBit then .connectCheck else .connectDeadline }
  | .connectCheck =>
      if s.carrier.connectedBit then some { s with app := .connectBaseline }
      else some { s.destroyClient with app := .idle }
  | .connectBaseline => some { s with
      carrier := { s.carrier with reconnectBaseline := s.carrier.connectCount }
      app := .idle
      recoveries := []
      connectedEvents := 0 }
  | .subscribePrior number filter => some { s with
      app := .subscribeClear ⟨number, filter, s.carrier.subscriptionAckCount,
        s.connection.acknowledged.length⟩ }
  | .subscribeClear call => some { s with
      carrier := { s.carrier with resubscribedBit := false }
      app := .subscribeSend call }
  | .subscribeSend call =>
      if answer then
        some { s.send ⟨call.filter, .call call.number⟩ with app := .subscribeDeadline call }
      else some (s.subscribeReturns call.number call.filter call.since false)
  | .subscribeDeadline call =>
      some { s with app := if answer then .subscribeLoad call else .subscribeReturn call }
  | .subscribeLoad call =>
      some { s with app :=
        if s.carrier.subscriptionAckCount ≤ call.priorAcknowledgements then .subscribeDeadline call
        else .subscribeReturn call }
  | .subscribeReturn call =>
      some (s.subscribeReturns call.number call.filter call.since
        (decide (call.priorAcknowledgements < s.carrier.subscriptionAckCount)))
  | .unsubscribeSend topic => some { s with app := if answer then .unsubscribeRemove topic else .idle }
  | .unsubscribeRemove topic => some { s with
      carrier := { s.carrier with subscriptions := s.carrier.subscriptions.erase topic }
      app := .idle }
  | .reconnectDeadline expected => some { s with
      app := if answer then .reconnectLoadCount expected else .reconnectCheckBits expected }
  | .reconnectLoadCount expected => some { s with
      app := if s.carrier.connectCount < expected then .reconnectDeadline expected
        else .reconnectLoadConnected expected }
  | .reconnectLoadConnected expected => some { s with
      app := if s.carrier.connectedBit then .reconnectLoadResubscribed expected
        else .reconnectDeadline expected }
  | .reconnectLoadResubscribed expected => some { s with
      app := if s.carrier.resubscribedBit then .reconnectCheckBits expected
        else .reconnectDeadline expected }
  | .reconnectCheckBits expected => some { s with
      app := if s.carrier.connectedBit && s.carrier.resubscribedBit then .reconnectCheckCount expected
        else .idle }
  | .reconnectCheckCount expected =>
      if expected ≤ s.carrier.connectCount then some { s with
        carrier := { s.carrier with reconnectBaseline := expected }
        app := .idle
        recoveries := s.recoveries ++ [⟨s.connection.up, s.carrier.subscriptions,
          s.connection.acknowledgedFilters⟩] }
      else some { s with app := .idle }

/-! ## The ESP-MQTT task -/

def connected : MqttSystem :=
  let connectCount := s.carrier.connectCount + 1
  { s with
    carrier := { s.carrier with connectCount := connectCount }
    connection := { s.connection with
      up := true
      outstanding := []
      acknowledgedFilters := [] }
    task := .connectedSet connectCount
    connectedEvents := s.connectedEvents + 1 }

def disconnected : MqttSystem :=
  { s with
    carrier := { s.carrier with
      connectedBit := false
      resubscribedBit := false }
    connection := { s.connection with
      up := false
      outstanding := []
      acknowledgedFilters := [] } }

def subscribed (index : Nat) (message : SentSubscribe) : MqttSystem :=
  let acknowledged := s.carrier.subscriptionAckCount + 1
  { s with
    carrier := { s.carrier with subscriptionAckCount := acknowledged }
    connection := { s.connection with
      outstanding := s.connection.outstanding.eraseIdx index
      acknowledgedFilters := s.connection.acknowledgedFilters ++ [message.filter]
      acknowledged := s.connection.acknowledged ++ [message] }
    task := .subscribedLoad acknowledged }

def stepTask (answer : Bool) : Option MqttSystem :=
  match s.task with
  | .idle => none
  | .connectedSet connectCount => some { s with
      carrier := { s.carrier with connectedBit := true }
      task := if 1 < connectCount then .connectedReset else .idle }
  | .connectedReset => some { s with
      carrier := { s.carrier with subscriptionAckCount := 0 }
      task := .connectedClear }
  | .connectedClear => some { s with
      carrier := { s.carrier with resubscribedBit := false }
      task := .connectedCopy }
  | .connectedCopy => some { s with task := .resubscribing s.carrier.subscriptions }
  | .resubscribing [] => some { s with task := .idle }
  | .resubscribing (filter :: rest) =>
      let sent := if answer then s.send ⟨filter, .resubscription⟩ else s
      some { sent with task := .resubscribing rest }
  | .subscribedLoad acknowledged => some { s with
      task := if 0 < s.carrier.subscriptions.length ∧
          s.carrier.subscriptions.length ≤ acknowledged.toNat then .subscribedSet
        else .idle }
  | .subscribedSet => some { s with
      carrier := { s.carrier with resubscribedBit := true }
      task := .idle }

end MqttSystem

/-! ## Runs -/

inductive MqttLabel where
  | connectWait (start : MqttSystem.ConnectStart)
  | subscribeWait (topic : List UInt8)
  | unsubscribe (topic : List UInt8)
  | reconnectWait (networkActive : Bool)
  | disconnect
  | app (answer : Bool)
  | connected
  | disconnected
  | subscribed (index : Nat)
  | task (answer : Bool)
  deriving DecidableEq, Repr

/-- One step. The application starts a call when none runs, and connects when it has
no client. The task takes an event when it is idle: CONNECTED when the connection is
down, and SUBSCRIBED for a SUBSCRIBE of the current connection. -/
def MqttSystem.next (bounds : CarrierBounds) (s : MqttSystem) : MqttLabel → Option MqttSystem
  | .connectWait start =>
      match s.app, s.carrier.mqttClient with
      | .idle, false => some (s.connectWait start)
      | _, _ => none
  | .subscribeWait topic =>
      match s.app with
      | .idle => some (s.subscribeWait bounds topic)
      | _ => none
  | .unsubscribe topic =>
      match s.app with
      | .idle => some (s.unsubscribe bounds topic)
      | _ => none
  | .reconnectWait networkActive =>
      match s.app with
      | .idle => some (s.reconnectWait networkActive)
      | _ => none
  | .disconnect =>
      match s.app with
      | .idle => some s.disconnect
      | _ => none
  | .app answer => s.stepApp answer
  | .connected =>
      match s.task, s.carrier.mqttClient, s.connection.up with
      | .idle, true, false => some s.connected
      | _, _, _ => none
  | .disconnected =>
      match s.task, s.carrier.mqttClient with
      | .idle, true => some s.disconnected
      | _, _ => none
  | .subscribed index =>
      match s.task, s.connection.outstanding[index]? with
      | .idle, some message => some (s.subscribed index message)
      | _, _ => none
  | .task answer => s.stepTask answer

end AxolotyEmbedded.Mqtt
