import AxolotyEmbedded.Bytes

/-!
The static device agents behind the exchange (`StaticDeviceAgent`): what they encode
into the two output buffers and what they make of an inbound frame. Core's codec and
its protocol processor are parameters. An encoder of Core may write anything into the
buffer it is given before it fails.
-/
namespace AxolotyEmbedded.DeviceAgent

inductive DeviceAgentRole where
  | roleA | roleB
  deriving DecidableEq, Repr

inductive StaticAgentMessageKind where
  | advertise | discover | resolve | deadvertise
  deriving DecidableEq, Repr

inductive StaticAgentAction where
  | rejected | ignored | response | resolved | deadvertised | actorAssociated
  | actorDisassociated | ioValueDelivered
  deriving DecidableEq, Repr

inductive StaticDeviceDispatchResult where
  | advertise | deadvertise | discover | resolve | wrongCorrelation | duplicateResolve
  | malformed | unsupported | ioSourceAssociated | ioSourceDisassociated | ioActorAssociated
  | ioActorDisassociated | ioValueDelivered
  deriving DecidableEq, Repr

abbrev UUID16 := BitVec 128

/-- The bytes of a literal of the source, which is ASCII. -/
def staticString (s : String) : List UInt8 := s.toList.map fun c => UInt8.ofNat c.toNat

/-! ## Core -/

/-- The event types the agents tell apart. -/
inductive WireEventType where
  | advertise | deadvertise | discover | resolve | associate | ioValue | other
  deriving DecidableEq, Repr

/-- What `TopicBuilder` writes with one call. -/
inductive TopicLevel where
  | wirePrefix
  | wireNamespace (name : List UInt8)
  | eventType (eventType : WireEventType) (filter : Option (List UInt8))
  | sourceId (id : UUID16)
  | correlationId (id : UUID16)

/-- One member of an object a `WireCodec` writer writes. -/
inductive WireField where
  | string (value : List UInt8)
  | uuid (value : UUID16)
  | raw (value : List UInt8)

/-- A writer over a caller's buffer. -/
structure Writer where
  buffer : Memory
  capacity : Nat
  position : Nat

inductive ProcessorOutcome where
  | accepted | ignored | duplicate | correlationMismatch | deadlineExpired | rejected
  deriving DecidableEq, Repr

inductive DeliveryKey where
  | ioActor (id : UUID16)
  | other
  deriving DecidableEq

inductive AssociationChange where
  | established | updated | removed
  deriving DecidableEq, Repr

inductive ProtocolAction where
  | deliver (key : DeliveryKey)
  | associationChanged (change : AssociationChange) (key : DeliveryKey)
  | publish | externalRouteActivated | externalRouteDeactivated

/-- The bounds of `WireBufferConfig`, the codec of the image's wire profile and the
processor, with the answers the agents read from them. `jsonCore` says whether the JSON
parser is linked. A write returns whether it succeeded. -/
structure Core where
  Message : Type
  Frame : Type
  WireData : Type
  Operation : Type
  Processor : Type
  jsonCore : Bool
  maxTopicLength : Nat
  maxPayloadSize : Nat
  validated : List UInt8 → List UInt8 → Option Message
  eventType : Message → WireEventType
  eventTypeFilter : Message → Option (List UInt8)
  correlationIdLevel : Message → Option (List UInt8)
  frame : Message → Option Frame
  parseUUID : List UInt8 → Option UUID16
  write : TopicLevel → Writer → Writer × Bool
  decode : WireEventType → List UInt8 → Option WireData
  encode : WireData → Writer → Writer × Bool
  object : Nat → List (List UInt8 × WireField) → Option (List UInt8)
  uuidArray : Nat → List UUID16 → Option (List UInt8)
  capable : WireEventType → Bool
  operation : WireEventType → UUID16 → Option UUID16 → List UInt8 → Option Nat → Option Operation
  processOutbound : Processor → Operation → UInt32 → Processor × ProcessorOutcome
  processInbound : Processor → Frame → UInt32 → Processor × ProcessorOutcome × List ProtocolAction
  expire : Processor → UInt32 → Processor × Bool
  copyActorRoute : Processor → UUID16 → Memory → Nat → Memory × Option Int

/-- What the platform answers while a message is prepared: the clock, and for a capacity
the length it returns for the display name with the memory it leaves. -/
structure Platform where
  nowMicroseconds : Int
  deviceDisplayName : Nat → Int × Memory

/-- `phase4NowMS`. -/
def phase4NowMS (nowMicroseconds : Int) : UInt32 := UInt32.ofInt (nowMicroseconds.tdiv 1000)

variable {core : Core}

/-! ## One agent -/

structure StaticDeviceAgent (core : Core) where
  agentId : UUID16
  hasAdvertisedPeer : Bool
  processor : core.Processor

namespace StaticDeviceAgent

def agentAId : UUID16 := 0x32400000000040008000000000000001#128

def objectAId : UUID16 := 0x32400000000040008000000000000002#128

def agentBId : UUID16 := 0x3240000000004000800000000000000b#128

def actorAId : UUID16 := 0x32400000000040008000000000000022#128

def actorBId : UUID16 := 0x32400000000040008000000000000032#128

def wireNamespace : List UInt8 := staticString "axoloty-embedded"

def deviceFilter : List UInt8 := staticString "coaty.test.Device"

def discoverTimeoutMS : Nat := 5000

def actorId (agent : StaticDeviceAgent core) : UUID16 :=
  if agent.agentId = agentAId then actorAId else actorBId

/-- The levels are written in order, up to the first that fails. -/
def writeLevels (core : Core) : List TopicLevel → Writer → Writer × Bool
  | [], writer => (writer, true)
  | level :: levels, writer =>
      match core.write level writer with
      | (writer, true) => writeLevels core levels writer
      | (writer, false) => (writer, false)

def topicLevels (agent : StaticDeviceAgent core) (eventType : WireEventType)
    (correlationId : Option UUID16) : List TopicLevel :=
  [.wirePrefix, .wireNamespace wireNamespace,
    .eventType eventType (if eventType = .advertise then some deviceFilter else none),
    .sourceId agent.agentId] ++ correlationId.toList.map .correlationId

/-- `encode`: the agent and the two buffers it leaves, and the lengths unless it throws. -/
def encode (agent : StaticDeviceAgent core) (value : core.WireData) (eventType : WireEventType)
    (correlationId : Option UUID16) (nowMS : UInt32) (topicBuffer : Memory) (topicCapacity : Nat)
    (payloadBuffer : Memory) (payloadCapacity : Nat) (recordWithProcessor : Bool) :
    StaticDeviceAgent core × Memory × Memory × Option (Nat × Nat) :=
  match writeLevels core (agent.topicLevels eventType correlationId)
      ⟨topicBuffer, topicCapacity, 0⟩ with
  | (topic, false) => (agent, topic.buffer, payloadBuffer, none)
  | (topic, true) =>
      match core.encode value ⟨payloadBuffer, payloadCapacity, 0⟩ with
      | (payload, false) => (agent, topic.buffer, payload.buffer, none)
      | (payload, true) =>
          let lengths := (topic.position, payload.position)
          if core.capable eventType = false then (agent, topic.buffer, payload.buffer, none)
          else if recordWithProcessor = false then
            (agent, topic.buffer, payload.buffer, some lengths)
          else
            match core.operation eventType agent.agentId correlationId
                (payload.buffer.bytes payload.position)
                (if eventType = .discover then some discoverTimeoutMS else none) with
            | none => (agent, topic.buffer, payload.buffer, none)
            | some operation =>
                let (processor, outcome) := core.processOutbound agent.processor operation nowMS
                ({ agent with processor }, topic.buffer, payload.buffer,
                  if outcome = .accepted then some lengths else none)

/-- The handlers of the subscriptions do nothing, so only the delivery keys matter. -/
def delivers (actor : UUID16) : ProtocolAction → Bool
  | .deliver key | .associationChanged _ key => key = .ioActor actor
  | .publish | .externalRouteActivated | .externalRouteDeactivated => false

def dispatch (agent : StaticDeviceAgent core) (message : core.Message) (nowMS : UInt32) :
    StaticDeviceAgent core × StaticDeviceDispatchResult :=
  if core.eventType message = .discover ∧
      (core.eventTypeFilter message).any (· ≠ deviceFilter) then (agent, .unsupported)
  else
    match core.frame message with
    | none => (agent, .malformed)
    | some frame =>
        let (processor, outcome, actions) := core.processInbound agent.processor frame nowMS
        let agent := { agent with processor }
        match outcome, actions with
        | .ignored, _ => (agent, .unsupported)
        | .duplicate, _ => (agent, .duplicateResolve)
        | .correlationMismatch, _ | .deadlineExpired, _ => (agent, .wrongCorrelation)
        | .rejected, _ | .accepted, [] => (agent, .malformed)
        | .accepted, action :: _ =>
            let actorDelivery := actions.any (delivers agent.actorId)
            match action with
            | .associationChanged .established _ | .associationChanged .updated _ =>
                (agent, if actorDelivery then .ioActorAssociated else .ioSourceAssociated)
            | .associationChanged .removed _ =>
                (agent, if actorDelivery then .ioActorDisassociated else .ioSourceDisassociated)
            | .deliver _ | .publish | .externalRouteActivated | .externalRouteDeactivated =>
                match core.eventType message with
                | .advertise => ({ agent with hasAdvertisedPeer := true }, .advertise)
                | .deadvertise => ({ agent with hasAdvertisedPeer := false }, .deadvertise)
                | .discover => (agent, .discover)
                | .resolve => (agent, .resolve)
                | .ioValue => (agent, if actorDelivery then .ioValueDelivered else .malformed)
                | .associate | .other => (agent, .unsupported)

end StaticDeviceAgent

/-! ## Both agents, and what they prepare -/

/-- The two static agents, and the buffers of the call that uses them. -/
structure Endpoint (core : Core) where
  phase4AgentA : StaticDeviceAgent core
  phase4AgentB : StaticDeviceAgent core
  topic : Memory
  payload : Memory

namespace Endpoint

def phase4Correlation : UUID16 := 0x32400000000040008000000000000004#128

def agent (s : Endpoint core) : DeviceAgentRole → StaticDeviceAgent core
  | .roleA => s.phase4AgentA
  | .roleB => s.phase4AgentB

def setAgent (s : Endpoint core) : DeviceAgentRole → StaticDeviceAgent core → Endpoint core
  | .roleA, agent => { s with phase4AgentA := agent }
  | .roleB, agent => { s with phase4AgentB := agent }

/-- `phase4NamedObjectSource`, in the 256 bytes `preparePhase4Message` gives it. -/
def phase4NamedObjectSource (core : Core) (platform : Platform) : Option (List UInt8) :=
  if core.jsonCore then
    let opening := staticString
      "\x7b\"object\":\x7b\"coreType\":\"CoatyObject\",\"objectId\":\"32400000-0000-4000-8000-000000000002\",\"objectType\":\"coaty.test.Device\",\"name\":\""
    let closing := staticString "\"\x7d\x7d"
    let room := 256 - opening.length
    let (nameLength, name) := platform.deviceDisplayName room
    if 0 ≤ nameLength ∧ nameLength ≤ room then
      if closing.length ≤ room - nameLength.toNat then
        some (opening ++ name.bytes nameLength.toNat ++ closing)
      else none
    else none
  else
    let (nameLength, name) := platform.deviceDisplayName 48
    if 0 ≤ nameLength ∧ nameLength ≤ 48 then
      (core.object 160 [(staticString "coreType", .string (staticString "CoatyObject")),
        (staticString "objectId", .uuid StaticDeviceAgent.objectAId),
        (staticString "objectType", .string (staticString "coaty.test.Device")),
        (staticString "name", .string (name.bytes nameLength.toNat))]).bind fun inner =>
          core.object 256 [(staticString "object", .raw inner)]
    else none

def phase4DiscoverSource (core : Core) : Option (List UInt8) :=
  if core.jsonCore then
    some (staticString "\x7b\"objectTypes\":[\"coaty.test.Device\"]\x7d")
  else
    core.object 64 [(staticString "objectTypes",
      .raw ([0x81, 0x71] ++ staticString "coaty.test.Device"))]

def phase4DeadvertiseSource (core : Core) : Option (List UInt8) :=
  if core.jsonCore then
    some (staticString "\x7b\"objectIds\":[\"32400000-0000-4000-8000-000000000002\"]\x7d")
  else
    (core.uuidArray 32 [StaticDeviceAgent.objectAId]).bind fun items =>
      core.object 64 [(staticString "objectIds", .raw items)]

/-- `phase4EncodeSource`: nothing is written when the source does not decode. -/
def phase4EncodeSource (s : Endpoint core) (role : DeviceAgentRole) (eventType : WireEventType)
    (correlationId : Option UUID16) (source : Option (List UInt8)) (platform : Platform)
    (recordWithProcessor : Bool) : Endpoint core × Option (Nat × Nat) :=
  match source.bind (core.decode eventType) with
  | none => (s, none)
  | some value =>
      let (agent, topic, payload, lengths) := (s.agent role).encode value eventType correlationId
        (phase4NowMS platform.nowMicroseconds) s.topic core.maxTopicLength s.payload
        core.maxPayloadSize recordWithProcessor
      ({ s.setAgent role agent with topic, payload }, lengths)

def preparePhase4Message (s : Endpoint core) (role : DeviceAgentRole)
    (kind : StaticAgentMessageKind) (responseCorrelationId : Option UUID16)
    (platform : Platform) : Endpoint core × Option (Nat × Nat) :=
  match role, kind with
  | .roleA, .advertise =>
      s.phase4EncodeSource .roleA .advertise none (phase4NamedObjectSource core platform)
        platform true
  | .roleB, .discover =>
      s.phase4EncodeSource .roleB .discover (some phase4Correlation) (phase4DiscoverSource core)
        platform true
  | .roleA, .resolve =>
      s.phase4EncodeSource .roleA .resolve (some (responseCorrelationId.getD phase4Correlation))
        (phase4NamedObjectSource core platform) platform true
  | .roleA, .deadvertise =>
      s.phase4EncodeSource .roleA .deadvertise none (phase4DeadvertiseSource core) platform false
  | _, _ => (s, none)

/-- An inbound frame, and what the platform answers while it is received. -/
structure Inbound where
  topic : List UInt8
  payload : List UInt8
  nowMicroseconds : Int
  platform : Platform

/-- Role A answers an accepted Discover with a Resolve for its correlation. -/
def answerDiscover (dispatched : Endpoint core) (message : core.Message)
    (result : StaticDeviceDispatchResult) (platform : Platform) :
    Endpoint core × StaticAgentAction × Option (Nat × Nat) :=
  if result ≠ .discover then (dispatched, .rejected, none)
  else
    match (core.correlationIdLevel message).bind core.parseUUID with
    | none => (dispatched, .rejected, none)
    | some correlationId =>
        let (t, lengths) :=
          dispatched.preparePhase4Message .roleA .resolve (some correlationId) platform
        (t, if lengths.isSome then .response else .rejected, lengths)

/-- Role B answers an accepted Advertise with its Discover. -/
def answerAdvertise (dispatched : Endpoint core) (result : StaticDeviceDispatchResult)
    (platform : Platform) : Endpoint core × StaticAgentAction × Option (Nat × Nat) :=
  if result ≠ .advertise then (dispatched, .rejected, none)
  else
    let (t, lengths) := dispatched.preparePhase4Message .roleB .discover none platform
    (t, if lengths.isSome then .response else .rejected, lengths)

def associationAction : StaticDeviceDispatchResult → StaticAgentAction
  | .ioActorAssociated => .actorAssociated
  | .ioActorDisassociated => .actorDisassociated
  | .ioSourceAssociated | .ioSourceDisassociated => .ignored
  | _ => .rejected

/-- `receiveStaticAgentMessage`: the action, and the lengths of what was prepared. -/
def receiveStaticAgentMessage (s : Endpoint core) (role : DeviceAgentRole) (inbound : Inbound) :
    Endpoint core × StaticAgentAction × Option (Nat × Nat) :=
  match core.validated inbound.topic inbound.payload with
  | none => (s, .rejected, none)
  | some message =>
      let (agent, result) :=
        (s.agent role).dispatch message (phase4NowMS inbound.nowMicroseconds)
      let dispatched := s.setAgent role agent
      match role, core.eventType message with
      | .roleA, .discover => dispatched.answerDiscover message result inbound.platform
      | .roleB, .advertise => dispatched.answerAdvertise result inbound.platform
      | .roleB, .resolve =>
          (dispatched, if result = .resolve then .resolved else .rejected, none)
      | .roleB, .deadvertise =>
          (dispatched, if result = .deadvertise then .deadvertised else .rejected, none)
      | _, .associate => (dispatched, associationAction result, none)
      | _, .ioValue =>
          (dispatched, if result = .ioValueDelivered then .ioValueDelivered else .rejected, none)
      | _, _ => (s, .ignored, none)

end Endpoint
end AxolotyEmbedded.DeviceAgent
