import Mathlib.Algebra.Group.Nat.Defs
import AxolotyEmbedded.Library.Transition
import AxolotyEmbedded.Mqtt.Session

/-!
Inbound frames within one MQTT session: the DATA branch of `network_mqtt_event`, the
queue of four frames, and a poll at each of its three layers. An event and a call
are one step each. The queue exists from the network's preparation on, and
`connect_wait` has emptied it and cleared the bits.
-/
namespace AxolotyEmbedded.Mqtt

/-- `NETWORK_MAX_PAYLOAD`: the payload bound and a terminator. -/
def networkMaxPayload (bounds : CarrierBounds) : Nat := bounds.maxPayloadBytes + 1

/-- `NETWORK_EVENT_CAPACITY`. -/
def networkEventCapacity : Nat := 4

/-! ## The DATA event -/

/-- A pointer is `none` where it is NULL. -/
structure MqttDataEvent where
  topic : Option Memory
  topicLength : Int
  data : Option Memory
  dataLength : Int
  totalDataLength : Int
  currentDataOffset : Int

inductive AxolotyMqttEventVerdict where
  | accept | oversized | discard
  deriving DecidableEq, Repr

def axolotyMqttEventClassify (bounds : CarrierBounds) (topic : Option Memory) (topicLength : Int)
    (data : Option Memory) (dataLength totalDataLength currentDataOffset : Int) :
    AxolotyMqttEventVerdict :=
  if currentDataOffset ≠ 0 then .discard
  else if topic.isNone = true ∨ topicLength ≤ 0 ∨ dataLength < 0 ∨ totalDataLength < 0 ∨
      totalDataLength < dataLength then .discard
  else if (networkMaxTopic bounds : Int) ≤ topicLength ∨
      (networkMaxPayload bounds : Int) ≤ totalDataLength ∨ dataLength ≠ totalDataLength then
    .oversized
  else if data.isNone = true then .discard
  else .accept

namespace MqttDataEvent

/-- The verdict on an event pointer. -/
def verdict (bounds : CarrierBounds) : Option MqttDataEvent → AxolotyMqttEventVerdict
  | some event => axolotyMqttEventClassify bounds event.topic event.topicLength event.data
      event.dataLength event.totalDataLength event.currentDataOffset
  | none => axolotyMqttEventClassify bounds none (-1) none (-1) (-1) (-1)

/-- What the handler copies; an accepted event has both pointers. -/
def frame (event : MqttDataEvent) : Message where
  key := (event.topic.getD fun _ => 0).bytes event.topicLength.toNat
  payload := (event.data.getD fun _ => 0).bytes event.dataLength.toNat

/-- The frame of an event that is classified ACCEPT. -/
def accepted (bounds : CarrierBounds) (event : Option MqttDataEvent) : Option Message :=
  if verdict bounds event = .accept then event.map frame else none

end MqttDataEvent

/-! ## The C carrier -/

/-- The bits 4, 32 and `NETWORK_EVENT_OVERFLOW_BIT`; `probe` is `network_topic` with
`network_payload`. -/
structure InboundCarrier where
  connectedBit : Bool
  loopbackBit : Bool
  overflowBit : Bool
  probe : Message
  oversizedCount : BitVec 32
  eventQueue : List Message

namespace InboundCarrier
variable (bounds : CarrierBounds) (c : InboundCarrier)

/-- `connect_wait` has stamped the probe and reset the rest. -/
def opened (probe : Message) (oversizedCount : BitVec 32) : InboundCarrier :=
  ⟨false, false, false, probe, oversizedCount, []⟩

/-- The handler from the comparison with the probe on. -/
def queueFrame (frame : Message) : InboundCarrier :=
  let c := if frame = c.probe then { c with loopbackBit := true } else c
  if c.eventQueue.length < networkEventCapacity then
    { c with eventQueue := c.eventQueue ++ [frame] }
  else { c with overflowBit := true }

/-- `network_mqtt_event` for `MQTT_EVENT_DATA`. -/
def networkMqttEvent (event : Option MqttDataEvent) : InboundCarrier :=
  match MqttDataEvent.verdict bounds event, event with
  | .oversized, _ => { c with oversizedCount := c.oversizedCount + 1 }
  | .accept, some event => c.queueFrame event.frame
  | _, _ => c

/-- What `axoloty_mqtt_poll_one_event` requires of its arguments. -/
def Admits (nonNull : Bool) (capacities : PollCapacities) : Prop :=
  nonNull = true ∧ 0 < capacities.topic ∧ 0 ≤ capacities.payload ∧
    capacities.topic ≤ networkMaxTopic bounds ∧ capacities.payload ≤ networkMaxPayload bounds

instance (nonNull : Bool) (capacities : PollCapacities) :
    Decidable (Admits bounds nonNull capacities) := inferInstanceAs (Decidable (_ ∧ _))

/-- `axoloty_mqtt_poll_one_event`; a frame leaves the queue before its size is checked. -/
def pollOneEvent (nonNull : Bool) (capacities : PollCapacities) (storage : CallerStorage) :
    Int × InboundCarrier × CallerStorage :=
  if Admits bounds nonNull capacities then
    if c.overflowBit then (-1, { c with overflowBit := false }, storage)
    else if c.connectedBit then
      match c.eventQueue with
      | [] => (0, c, storage)
      | frame :: rest =>
          let c := { c with eventQueue := rest }
          if frame.key.length = 0 ∨ capacities.topic < frame.key.length ∨
              capacities.payload < frame.payload.length then (-1, c, storage)
          else
            (1, c, {
              topic := storage.topic.copy (Memory.ofList frame.key) frame.key.length
              topicLength := frame.key.length
              payload := storage.payload.copy (Memory.ofList frame.payload) frame.payload.length
              payloadLength := frame.payload.length })
    else (-2, c, storage)
  else (-1, c, storage)

end InboundCarrier

/-! ## The Swift client and the version 1 table -/

def abiStatusOk : Int := 0
def abiStatusNoEvent : Int := 1
def abiStatusClosed : Int := 2
def abiStatusInvalidArgument : Int := -1
def abiStatusFailed : Int := -2

/-- A poll at one of the three layers. -/
inductive PollCall where
  | carrier (nonNull : Bool) (capacities : PollCapacities) (storage : CallerStorage)
  | client (capacities : PollCapacities) (storage : CallerStorage)
  | v1 (nonNull : Bool) (topicCapacity payloadCapacity : BitVec 32) (storage : CallerStorage)

namespace PollCall

def capacities : PollCall → PollCapacities
  | .carrier _ capacities _ | .client capacities _ => capacities
  | .v1 _ topicCapacity payloadCapacity _ => ⟨topicCapacity.toNat, payloadCapacity.toNat⟩

/-- What the layer returns with a frame. -/
def success : PollCall → Int
  | .carrier .. | .client .. => 1
  | .v1 .. => abiStatusOk

/-- What the layer returns where the carrier fails. -/
def failure : PollCall → Int
  | .carrier .. | .client .. => -1
  | .v1 .. => abiStatusFailed

end PollCall

/-- A message classified ACCEPT, how many frames were queued before it, and whether
the queue took it. -/
structure Arrival where
  frame : Message
  occupied : Nat
  queued : Bool
  deriving DecidableEq, Repr

/-- A frame that left the queue, the call that removed it and what the call returned. -/
structure Removal where
  frame : Message
  call : PollCall
  status : Int

/-- Both layers of one session, with what came in, what left the queue and what callers
have received, each oldest first. `owed` says that a message was refused and no poll of
the carrier has failed since. -/
structure PollSystem where
  carrier : InboundCarrier
  subscribed : Bool
  arrivals : List Arrival
  removals : List Removal
  returned : List Message
  owed : Bool

namespace PollSystem
variable (bounds : CarrierBounds) (s : PollSystem)

def opened (probe : Message) (oversizedCount : BitVec 32) : PollSystem :=
  ⟨.opened probe oversizedCount, false, [], [], [], false⟩

/-- `EmbeddedMQTTClient.pollOneEvent`, whose pointers cannot be NULL. -/
def clientPollOneEvent (capacities : PollCapacities) (storage : CallerStorage) :
    Int × InboundCarrier × CallerStorage :=
  if s.subscribed = true ∧ capacities.Admitted bounds then
    let (result, carrier, storage) := s.carrier.pollOneEvent bounds true capacities storage
    if result = 1 ∧ (storage.topicLength ≤ 0 ∨ capacities.topic < storage.topicLength ∨
        storage.payloadLength < 0 ∨ capacities.payload < storage.payloadLength) then
      (-1, carrier, storage)
    else (result, carrier, storage)
  else (-1, s.carrier, storage)

/-- `axoloty_mqtt_v1_poll_one_event`, which reports lengths only with a frame. -/
def v1PollOneEvent (nonNull : Bool) (topicCapacity payloadCapacity : BitVec 32)
    (storage : CallerStorage) : Int × InboundCarrier × CallerStorage :=
  if nonNull = true ∧ topicCapacity.toNat < 2 ^ 31 ∧ payloadCapacity.toNat < 2 ^ 31 then
    let (status, carrier, copied) := s.clientPollOneEvent bounds
      ⟨topicCapacity.toNat, payloadCapacity.toNat⟩
      { storage with topicLength := 0, payloadLength := 0 }
    if status = 1 then (abiStatusOk, carrier, copied)
    else
      let storage := { copied with
        topicLength := storage.topicLength
        payloadLength := storage.payloadLength }
      if status = 0 then (abiStatusNoEvent, carrier, storage)
      else if status = -2 then (abiStatusClosed, carrier, storage)
      else (abiStatusFailed, carrier, storage)
  else (abiStatusInvalidArgument, s.carrier, storage)

def answer : PollCall → Int × InboundCarrier × CallerStorage
  | .carrier nonNull capacities storage =>
      s.carrier.pollOneEvent bounds nonNull capacities storage
  | .client capacities storage => s.clientPollOneEvent bounds capacities storage
  | .v1 nonNull topicCapacity payloadCapacity storage =>
      s.v1PollOneEvent bounds nonNull topicCapacity payloadCapacity storage

/-- The call passes the checks of every layer it goes through. -/
def Reaches : PollCall → Prop
  | .carrier nonNull capacities _ => InboundCarrier.Admits bounds nonNull capacities
  | .client capacities _ => s.subscribed = true ∧ capacities.Admitted bounds
  | .v1 nonNull topicCapacity payloadCapacity _ =>
      (nonNull = true ∧ topicCapacity.toNat < 2 ^ 31 ∧ payloadCapacity.toNat < 2 ^ 31) ∧
        s.subscribed = true ∧
          PollCapacities.Admitted ⟨topicCapacity.toNat, payloadCapacity.toNat⟩ bounds

instance (call : PollCall) : Decidable (s.Reaches bounds call) := by
  cases call <;> exact inferInstanceAs (Decidable (_ ∧ _))

/-! ## Runs -/

/-- One DATA event. -/
def arrive (event : Option MqttDataEvent) : PollSystem :=
  let carrier := s.carrier.networkMqttEvent bounds event
  let occupied := s.carrier.eventQueue.length
  match MqttDataEvent.accepted bounds event with
  | none => { s with carrier := carrier }
  | some frame =>
      let queued := decide (occupied < carrier.eventQueue.length)
      { s with
        carrier := carrier
        arrivals := s.arrivals ++ [⟨frame, occupied, queued⟩]
        owed := s.owed || !queued }

/-- One poll; what left the queue is what it held before and no longer holds. -/
def poll (call : PollCall) : PollSystem :=
  let (status, carrier, storage) := s.answer bounds call
  let removed := s.carrier.eventQueue.take
    (s.carrier.eventQueue.length - carrier.eventQueue.length)
  { s with
    carrier := carrier
    removals := s.removals ++ removed.map (⟨·, call, status⟩)
    returned := if status = call.success then s.returned ++ [storage.message] else s.returned
    owed := s.owed && !decide (s.Reaches bounds call ∧ status = call.failure) }

end PollSystem

/-- One event of the session or one poll. -/
inductive PollLabel where
  | connected
  | disconnected
  | subscribed
  | data (event : Option MqttDataEvent)
  | poll (call : PollCall)

namespace PollSystem

def next (bounds : CarrierBounds) (s : PollSystem) : PollLabel → Option PollSystem
  | .connected => some { s with carrier := { s.carrier with connectedBit := true } }
  | .disconnected => some { s with carrier := { s.carrier with connectedBit := false } }
  | .subscribed => some { s with subscribed := true }
  | .data event => some (s.arrive bounds event)
  | .poll call => some (s.poll bounds call)

end PollSystem
end AxolotyEmbedded.Mqtt
