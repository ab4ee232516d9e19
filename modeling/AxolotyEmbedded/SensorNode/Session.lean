import AxolotyEmbedded.DeviceAgent.StaticDeviceAgent
import AxolotyEmbedded.Library.Monitor
import AxolotyEmbedded.SensorNode.Console

/-!
The sensor node (`SensorNode.run`): sessions from network bring-up to teardown, the serve loop of
a session and the restart policy around the sessions. The platform, the carrier and the static
runtime answer each call in any way, and Core's codecs are parameters.
-/
namespace AxolotyEmbedded.SensorNode

open DeviceAgent (UUID16 staticString)

/-! ## Core -/

inductive EventType where
  | advertise | deadvertise | channel | discover | resolve | other
  deriving DecidableEq

inductive FilterKind where
  | direct | objectType
  deriving DecidableEq

/-- What `TopicBuilder` writes with one call. -/
inductive TopicLevel where
  | wirePrefix
  | wireNamespace (name : List UInt8)
  | eventType (event : EventType) (filter : Option (List UInt8)) (kind : FilterKind)
  | sourceId (id : UUID16)
  | correlationId (id : UUID16)

/-- One member of an object that a `WireCodec` writer writes. -/
inductive Field where
  | string (value : List UInt8)
  | escapedString (value : List UInt8)
  | uuid (value : UUID16)
  | int (value : Int)
  | raw (value : List UInt8)

/-- The codecs of the image's wire profile, with the bounds of the build: what each writes into a
buffer of some capacity if nothing is refused, and the type lists that a Discover asks for.
`jsonCore` says whether the JSON parser is linked. -/
structure Wire where
  jsonCore : Bool
  maxTopicLength : Nat
  maxPayloadSize : Nat
  topic : Nat → List TopicLevel → Option (List UInt8)
  object : Nat → List (String × Field) → Option (List UInt8)
  uuidArray : Nat → List UUID16 → Option (List UInt8)
  discoverTypes : List UInt8 → Option (Option (List UInt8) × Option (List UInt8))

/-- `ProtocolLocalOperation`. -/
inductive LocalOperation where
  | advertise (sourceID : UUID16) (payload : List UInt8)
  | channel (sourceID : UUID16) (payload identifier : List UInt8)
  | resolve (sourceID correlationID : UUID16) (payload : List UInt8)

/-- `BorrowedProtocolPublication`, with its target if that is a profile route. -/
structure Publication where
  profile : Option (Option (List UInt8) × FilterKind)
  capability : EventType
  sourceID : UUID16
  correlationID : Option UUID16
  payload : List UInt8

structure Delivery where
  capability : EventType
  correlationID : Option UUID16
  payload : List UInt8

inductive Action where
  | publish (publication : Publication)
  | deliver (delivery : Delivery)
  | other

/-! ## Messages -/

def bringUpDeadlineMS : BitVec 32 := 30000

def readingPeriodMS : Nat := 2000

def metricsEveryReadings : BitVec 32 := 5

def idleTicks : Nat := 10

def retryBaseTicks : Nat := 1000

def retryCeilingTicks : Nat := 30000

def maximumFailedSessions : Nat := 10

def nameCapacity : Nat := 48

/-- `SensorNodeIdentity.agent`. -/
def agentID : UUID16 := 0x32400000000040008000000000000101#128

/-- `SensorNodeIdentity.object`. -/
def objectID : UUID16 := 0x32400000000040008000000000000102#128

def wireNamespace : List UInt8 := staticString "axoloty-embedded"

def coreType : List UInt8 := staticString "CoatyObject"

def objectType : List UInt8 := staticString "axoloty.sensor.Node"

def channelIdentifier : List UInt8 := staticString "sensor-readings"

/-- `SensorObjectBound.maximumJSONBytes`. -/
def maximumJSONBytes : Nat := 120 + nameCapacity * 6 + (12 + 10) + (9 + 20) + 1

variable (wire : Wire)

def sensorNodeDiscoverInterest : List UInt8 :=
  if wire.jsonCore then staticString "coaty/3/axoloty-embedded/DSC/+/+"
  else staticString "axoloty/1/axoloty-embedded/DSC/*/*"

/-- A reading by its sequence and its value. -/
abbrev Reading := BitVec 32 × Int

def writeSensorObject (name : List UInt8) (reading : Option Reading) : Option (List UInt8) :=
  wire.object maximumJSONBytes
    ([("coreType", .string coreType), ("objectId", .uuid objectID), ("objectType", .string objectType),
      ("name", .escapedString name)] ++
        match reading with
        | none => []
        | some (sequence, value) => [("sequence", .int sequence.toNat), ("value", .int value)])

def encodeSensorObjectPayload (name : List UInt8) (reading : Option Reading) : Option (List UInt8) := do
  let object ← writeSensorObject wire name reading
  wire.object wire.maxPayloadSize [("object", .raw object)]

def encodeSensorDeadvertisePayload : Option (List UInt8) := do
  let ids ← wire.uuidArray 48 [objectID]
  wire.object wire.maxPayloadSize [("objectIds", .raw ids)]

def writeSensorRoute (event : EventType) (filter : Option (List UInt8)) (kind : FilterKind)
    (source : UUID16) (correlation : Option UUID16) : Option (List UInt8) :=
  wire.topic wire.maxTopicLength
    ([.wirePrefix, .wireNamespace wireNamespace, .eventType event filter kind, .sourceId source] ++
      correlation.toList.map .correlationId)

/-- Whether `haystack` holds the bytes of `needle`. -/
def sliceContains (haystack needle : List UInt8) : Bool :=
  needle.length ≤ haystack.length &&
    (List.range (haystack.length - needle.length + 1)).any fun start =>
      needle.isPrefixOf (haystack.drop start)

/-- Whether a Discover asks for this node's type. -/
def sensorDiscoverMatches (payload : List UInt8) : Bool :=
  match wire.discoverTypes payload with
  | none => false
  | some (objectTypes, coreTypes) =>
      objectTypes.any (sliceContains · objectType) || coreTypes.any (sliceContains · coreType)

/-! ## Calls -/

inductive Call where
  | nowMicroseconds
  | delay (ticks : Nat)
  | restart
  | writeLog (line : Line)
  | readMetrics
  | isNetworkConfigured
  | prepareNetwork (deadlineMilliseconds : BitVec 32)
  | copyDeviceDisplayName (capacity : Nat)
  | cleanupNetwork
  | supportsLastWill
  | configureLastWill (topic payload : List UInt8)
  | connect (deadlineMilliseconds : BitVec 32)
  | subscribe (topic : List UInt8) (deadlineMilliseconds : BitVec 32)
  | publish (topic payload : List UInt8)
  | pollOneEvent (topicCapacity payloadCapacity : Nat)
  | disconnect
  | resetTransport
  | send (operation : LocalOperation) (nowMS : BitVec 32)
  | receive (topic payload : List UInt8) (nowMS : BitVec 32)
  | drain

/-- `EmbeddedCarrierPollResult`, with the frame that was copied. -/
inductive Polled where
  | closed
  | noEvent
  | event (topic payload : List UInt8)

/-- What a call returns, with `none` where it throws. `send` says whether the operation was
accepted, `receive` whether the frame was rejected. -/
abbrev Call.Answer : Call → Type
  | nowMicroseconds => Option (BitVec 64)
  | readMetrics => Option Metrics
  | isNetworkConfigured => Option Bool
  | prepareNetwork _ => Option (BitVec 32)
  | copyDeviceDisplayName _ => Option (List UInt8)
  | supportsLastWill => Option Bool
  | pollOneEvent .. => Option Polled
  | send .. => Bool
  | receive .. => Bool
  | drain => List Action
  | _ => Option Unit

abbrev NodeScript := Script Call.Answer

def ask (made : Call) : NodeScript made.Answer := Script.ask made

def sensorNodeLog (line : Line) : NodeScript Unit := do
  let _ ← ask (.writeLog line)
  pure ()

def sensorNodeNowUS : NodeScript (BitVec 64) := do
  let now ← ask .nowMicroseconds
  pure (now.getD 0)

-- A clock of 64 bits in milliseconds leaves room for the sums below.
def sensorNodeNowMS : NodeScript Nat := do
  let now ← ask .nowMicroseconds
  pure ((now.getD 0).toNat / 1000)

/-- `sensorNodeElapsedUs`: saturated at 32 bits. -/
def elapsedUs (start now : BitVec 64) : BitVec 32 :=
  if 0xFFFFFFFF < (now - start).toNat then 0xFFFFFFFF else (now - start).setWidth 32

def maxUs (first second : BitVec 32) : BitVec 32 := if first ≤ second then second else first

def Counters.noteReading (counters : Counters) (start : BitVec 64) : NodeScript Counters := do
  let now ← sensorNodeNowUS
  pure { counters with
    readingLastUs := elapsedUs start now
    readingMaxUs := maxUs counters.readingMaxUs (elapsedUs start now) }

def Counters.noteFrame (counters : Counters) (start : BitVec 64) : NodeScript Counters := do
  let now ← sensorNodeNowUS
  pure { counters with
    frameLastUs := elapsedUs start now
    frameMaxUs := maxUs counters.frameMaxUs (elapsedUs start now) }

def logSensorNodeMetrics (counters : Counters) : NodeScript Unit := do
  let platform ← ask .readMetrics
  match platform with
  | none => pure ()
  | some platform => sensorNodeLog (.metrics counters platform)

/-! ## Operations -/

/-- Publishes one drained runtime action on its profile route. -/
def publishSensorAction (publication : Publication) : NodeScript Bool :=
  match publication.profile with
  | none => pure false
  | some (filter, kind) =>
      match writeSensorRoute wire publication.capability filter kind publication.sourceID
          publication.correlationID with
      | none => pure false
      | some topic => do
          let sent ← ask (.publish topic publication.payload)
          pure sent.isSome

/-- The actions of a drain. One that cannot be published does not stop the others. -/
def publishSensorActions : List Action → NodeScript Bool
  | [] => pure true
  | .publish publication :: actions => do
      let sent ← publishSensorAction wire publication
      let others ← publishSensorActions actions
      pure (sent && others)
  | _ :: actions => publishSensorActions actions

/-- Sends one local operation and publishes what the runtime produced. -/
def sendSensorOperation (operation : LocalOperation) (nowMS : Nat) : NodeScript Bool := do
  let accepted ← ask (.send operation (BitVec.ofNat 32 nowMS))
  if accepted then
    let actions ← ask .drain
    publishSensorActions wire actions
  else pure false

def configureSensorLastWill : NodeScript Bool := do
  let supported ← ask .supportsLastWill
  if supported = some true then
    match writeSensorRoute wire .deadvertise none .direct agentID none, encodeSensorDeadvertisePayload wire with
    | some topic, some payload =>
        let configured ← ask (.configureLastWill topic payload)
        pure configured.isSome
    | _, _ => pure false
  else pure true

/-! ## The serve loop -/

/-- The last request that a drain delivered and that asks for this node. -/
def requestOf (actions : List Action) : Option UUID16 :=
  actions.foldl (fun request action =>
    match action with
    | .deliver delivery =>
        if delivery.capability = .discover ∧ sensorDiscoverMatches wire delivery.payload = true then
          delivery.correlationID
        else request
    | _ => request) none

/-- Processes one inbound frame and answers a matching Discover. -/
def serveSensorFrame (name topic payload : List UInt8) (nowMS : Nat) (counters : Counters) :
    NodeScript (Bool × Counters) := do
  let start ← sensorNodeNowUS
  let rejected ← ask (.receive topic payload (BitVec.ofNat 32 nowMS))
  let counters := if rejected then { counters with rejected := counters.rejected + 1 } else counters
  let actions ← ask .drain
  match requestOf wire actions with
  | none => pure (true, counters)
  | some request =>
      match encodeSensorObjectPayload wire name none with
      | none => pure (false, counters)
      | some payload =>
          let counters := { counters with resolves := counters.resolves + 1 }
          let sent ← sendSensorOperation wire (.resolve agentID request payload) nowMS
          if sent then
            let counters ← counters.noteFrame start
            pure (true, counters)
          else pure (false, counters)

/-- One reading, from its count to its metrics line. -/
def takeReading (name : List UInt8) (nowMS : Nat) (counters : Counters) :
    NodeScript (Bool × Counters) := do
  let counters := { counters with readings := counters.readings + 1 }
  let start ← sensorNodeNowUS
  match encodeSensorObjectPayload wire name
      (some (counters.readings, (counters.readings.toNat % 100 : Nat))) with
  | none => pure (false, counters)
  | some payload =>
      let sent ← sendSensorOperation wire (.channel agentID payload channelIdentifier) nowMS
      if sent then
        let counters ← counters.noteReading start
        if counters.readings % metricsEveryReadings = 0 then
          logSensorNodeMetrics counters
        pure (true, counters)
      else pure (false, counters)

structure Serving where
  counters : Counters
  nextReadingMS : Nat

/-- What a publish that failed leaves. -/
def Counters.failed (counters : Counters) : Counters :=
  { counters with publishFailures := counters.publishFailures + 1 }

/-- One poll of the carrier and what comes of it. -/
def pollCarrier (name : List UInt8) (nowMS : Nat) (serving : Serving) :
    NodeScript (Serving ⊕ Counters) := do
  let polled ← ask (.pollOneEvent wire.maxTopicLength wire.maxPayloadSize)
  match polled with
  | none => pure (.inr serving.counters)
  | some .closed => pure (.inr serving.counters)
  | some .noEvent =>
      let _ ← ask (.delay idleTicks)
      pure (.inl serving)
  | some (.event topic payload) =>
      let (served, counters) ← serveSensorFrame wire name topic payload nowMS serving.counters
      if served then pure (.inl { serving with counters }) else pure (.inr counters.failed)

/-- One round of the serve loop: the reading that is due, then one poll. -/
def serveOnce (name : List UInt8) (serving : Serving) : NodeScript (Serving ⊕ Counters) := do
  let nowMS ← sensorNodeNowMS
  if serving.nextReadingMS ≤ nowMS then
    let (published, counters) ← takeReading wire name nowMS serving.counters
    if published then pollCarrier wire name nowMS ⟨counters, nowMS + readingPeriodMS⟩
    else pure (.inr counters.failed)
  else pollCarrier wire name nowMS serving

/-! ## One session -/

/-- What bring-up leaves: whether the carrier is connected, and the step that was reached. -/
structure BroughtUp where
  connected : Bool
  stage : Stage

/-- The Advertise of a session. -/
def advertise (name : List UInt8) : NodeScript Bool :=
  match encodeSensorObjectPayload wire name none with
  | none => pure false
  | some payload => do
      let nowMS ← sensorNodeNowMS
      sendSensorOperation wire (.advertise agentID payload) nowMS

/-- From the connected carrier to the advertised node. -/
def joinNetwork (name : List UInt8) : NodeScript BroughtUp := do
  let subscribed ← ask (.subscribe (sensorNodeDiscoverInterest wire) bringUpDeadlineMS)
  if subscribed.isSome then
    let advertised ← advertise wire name
    if advertised then pure ⟨true, .serving⟩ else pure ⟨true, .advertise⟩
  else pure ⟨true, .subscribe⟩

def bringUp (name : List UInt8) : NodeScript BroughtUp := do
  let network ← ask (.prepareNetwork bringUpDeadlineMS)
  if network.any (fun bits => bits &&& 3 == 3) then
    let configured ← configureSensorLastWill wire
    if configured then
      let connected ← ask (.connect bringUpDeadlineMS)
      if connected.isSome then joinNetwork wire name else pure ⟨false, .connect⟩
    else pure ⟨false, .lastWill⟩
  else pure ⟨false, .network⟩

/-- The serve loop with its announcement. It has no counters if it goes on after the rounds. -/
def serve (rounds : Nat) (name : List UInt8) (counters : Counters) : NodeScript (Option Counters) := do
  sensorNodeLog .advertised
  let nextReadingMS ← sensorNodeNowMS
  Script.loop (serveOnce wire name) rounds ⟨counters, nextReadingMS⟩

/-- The deferred teardown. -/
def tearDown (session : BroughtUp) : NodeScript Unit := do
  if session.connected then
    let _ ← ask .disconnect
  let _ ← ask .cleanupNetwork
  sensorNodeLog (.ended session.stage)

/-- One session: whether it got as far as advertising, with the counters after it. -/
def runSensorNodeSession (rounds : Nat) (counters : Counters) : NodeScript (Option (Bool × Counters)) := do
  let _ ← ask .resetTransport
  let name ← ask (.copyDeviceDisplayName nameCapacity)
  let session ← bringUp wire (name.getD [])
  if session.stage = .serving then
    let served ← serve wire rounds (name.getD []) counters
    match served with
    | none => pure none
    | some counters =>
        tearDown session
        pure (some (true, counters))
  else
    tearDown session
    pure (some (false, counters))

/-! ## The application -/

structure Running where
  counters : Counters
  failedSessions : Nat

/-- `EmbeddedApplicationResult.failed`, or a session that is still going on. -/
inductive Ending where
  | failed
  | serving
  deriving DecidableEq

/-- `min(retryBaseTicks << min(failedSessions, 5), retryCeilingTicks)`. -/
def backoffTicks (failedSessions : Nat) : Nat :=
  min (retryBaseTicks <<< min failedSessions 5) retryCeilingTicks

/-- One session and the pause after it. -/
def runOnce (rounds : Nat) (running : Running) : NodeScript (Running ⊕ Ending) := do
  let session ← runSensorNodeSession wire rounds running.counters
  match session with
  | none => pure (.inr .serving)
  | some (reachedNetwork, counters) =>
      let counters := { counters with sessions := counters.sessions + 1 }
      let failedSessions := if reachedNetwork then 0 else running.failedSessions + 1
      if failedSessions < maximumFailedSessions then
        let _ ← ask (.delay (backoffTicks failedSessions))
        pure (.inl ⟨counters, failedSessions⟩)
      else
        sensorNodeLog .restart
        let _ ← ask .restart
        pure (.inr .failed)

/-- `SensorNode.run`, cut after some sessions and some rounds of each. -/
def run (sessions rounds : Nat) : NodeScript (Option Ending) := do
  let configured ← ask .isNetworkConfigured
  if configured = some true then Script.loop (runOnce wire rounds) sessions ⟨.zero, 0⟩
  else
    sensorNodeLog .unconfigured
    pure (some .failed)

end AxolotyEmbedded.SensorNode
