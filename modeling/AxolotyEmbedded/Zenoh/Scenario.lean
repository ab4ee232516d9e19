import AxolotyEmbedded.Library.Script
import AxolotyEmbedded.Zenoh.Diagnostics
import AxolotyEmbedded.Zenoh.Facade
import AxolotyEmbedded.Zenoh.Report
import Mathlib.Data.List.TakeWhile

/-!
The carrier scenario: a script of twelve steps over the calls of the facade, of the
counters and of the hooks its environment lends. Any call may return any result.
-/
namespace AxolotyEmbedded.Zenoh

/-- The bounds of the facade, with `AXOLOTY_ZENOH_RECEIVE_QUEUE_CAPACITY`. -/
structure ScenarioBounds extends FacadeBounds where
  receiveQueueCapacity : Nat

/-- `ZenohScenarioEnvironment`, as far as the scenario reads it: which hooks are given. -/
structure ScenarioEnvironment where
  emitJsonl : Bool
  delayMs : Bool
  loopback : Bool
  setRouterAvailable : Bool
  readResource : Bool
  flashImageBytes : BitVec 32

/-- `ZenohScenarioConfig`. -/
structure ScenarioConfig where
  connectEndpoint : Option Memory
  connectEndpointLength : Nat
  key : Option Memory
  keyLength : Nat
  reconnectCycles : Nat
  continuousFrames : Nat

inductive ResourceMetric where
  | freeHeapBytes | minFreeHeapBytes | largestFreeBlockBytes | mainStackHighWaterBytes
  | workerStackHighWaterBytes | steadyStateAllocations

/-- A session or a subscription as the facade hands it out; zero is null. -/
abbrev FacadeHandle := Nat

/-! ## Calls -/

/-- The result of a call, with what its out variable holds afterwards. -/
structure Answered (Value : Type) where
  result : ZenohResult
  value : Value

/-- A poll, with the receive storage after it. -/
structure Polled where
  result : ZenohResult
  payloadLength : BitVec 32
  payload : Memory

/-- The calls that neither open, nor close, nor subscribe. -/
inductive StepCall where
  | state (session : FacadeHandle)
  | connectedRouterCount (session : FacadeHandle)
  | publish (session : FacadeHandle) (key payload : List UInt8) (payloadLength : Nat)
  | unsubscribe (session subscription : FacadeHandle)
  | poll (session subscription : FacadeHandle)
  | queueDepth (session subscription : FacadeHandle)
  | droppedFrameCount (session subscription : FacadeHandle)
  | diagnosticsReset
  | diagnosticsAdd (metric : CarrierMetric)
  | setActiveSubscriptions (active : BitVec 32)
  | diagnosticsWriteJson (capacity : Nat)
  | emitJsonl (line : List UInt8)
  | delayMs (milliseconds : Nat)
  | loopback (key payload : List UInt8)
  | setRouterAvailable (available : Bool)
  | readResource (metric : ResourceMetric)

def StepCall.Answer : StepCall → Type
  | .state _ => Answered SessionState
  | .connectedRouterCount _ | .queueDepth .. | .droppedFrameCount .. => Answered (BitVec 32)
  | .publish .. | .unsubscribe .. => ZenohResult
  | .poll .. => Polled
  | .diagnosticsWriteJson _ => Option (List UInt8)
  | .setRouterAvailable _ => Bool
  | .readResource _ => Option (BitVec 32)
  | .diagnosticsReset | .diagnosticsAdd _ | .setActiveSubscriptions _ | .emitJsonl _ | .delayMs _
  | .loopback .. => Unit

inductive ScenarioCall where
  | open (config : ZenohConfig)
  | close (session : FacadeHandle)
  | subscribe (session : FacadeHandle) (key : List UInt8)
  | step (made : StepCall)

def ScenarioCall.Answer : ScenarioCall → Type
  | .open _ | .subscribe .. => Answered FacadeHandle
  | .close _ => ZenohResult
  | .step made => made.Answer

inductive ScenarioCallKind where
  | open | close | subscribe | step
  deriving DecidableEq

def ScenarioCall.kind : ScenarioCall → ScenarioCallKind
  | .open _ => .open
  | .close _ => .close
  | .subscribe .. => .subscribe
  | .step _ => .step

abbrev Step := Script StepCall.Answer

abbrev Scenario := Script ScenarioCall.Answer

def ask (made : StepCall) : Step made.Answer := Script.ask made

/-- A part of the scenario that opens, closes and subscribes nothing. -/
def Step.run {α : Type} (part : Step α) : Scenario α := part.lift .step fun _ answer => answer

/-! ## Reports of steps -/

inductive StepOutcome where
  | pass | fail | unavailable
  deriving DecidableEq

/-- `ScenarioState` without its counts, which no step but `record` changes. -/
structure ScenarioState where
  subscriber : FacadeHandle
  publisher : FacadeHandle
  subscription : FacadeHandle
  key : List UInt8

/-- The counts of `ScenarioState`. -/
structure StepTally where
  stepsTotal : Nat
  stepsPassed : Nat
  stepsUnavailable : Nat

/-- A string literal of C. -/
def CString.literal (text : String) : CString where
  bytes := (text.toList.map fun char => UInt8.ofNat char.toNat).takeWhile (· ≠ 0)
  terminated mem := by simpa using List.mem_takeWhile_imp mem

def scenarioName : CString := .literal "axoloty-zenoh-carrier"

/-- `ZENOH_CARRIER_REPORT_LINE_CAPACITY`. -/
def reportLineCapacity : Nat := 1024

def StepOutcome.name : StepOutcome → CString
  | .pass => .literal "pass"
  | .fail => .literal "fail"
  | .unavailable => .literal "unavailable"

def blankMemory : Memory := fun _ => 0

/-- The bytes a sink holds at its end; nothing when it overflowed. -/
def ReportSink.line (sink : ReportSink) : Option (List UInt8) :=
  let (length, sink) := sink.reportEnd
  if 0 < length then sink.buffer.map fun memory => memory.bytes length else none

def StepTally.note (tally : StepTally) (outcome : StepOutcome) : StepTally where
  stepsTotal := tally.stepsTotal + 1
  stepsPassed := if outcome = .pass then tally.stepsPassed + 1 else tally.stepsPassed
  stepsUnavailable :=
    if outcome = .unavailable then tally.stepsUnavailable + 1 else tally.stepsUnavailable

def emit (environment : ScenarioEnvironment) : Option (List UInt8) → Step Unit
  | some line => if environment.emitJsonl then ask (.emitJsonl line) else pure ()
  | none => pure ()

def record (tally : StepTally) (environment : ScenarioEnvironment) (step : String)
    (outcome : StepOutcome) (detail : String) : Step StepTally := do
  let sink := (ReportSink.calls [.keyString (.literal "scenario") scenarioName,
    .keyString (.literal "step") (.literal step), .keyString (.literal "result") outcome.name,
    .keyString (.literal "detail") (.literal detail)]
    (reportBegin (some blankMemory) reportLineCapacity)).2
  emit environment sink.line
  pure (tally.note outcome)

def diagnosticsReset : Step Unit := ask .diagnosticsReset

def diagnosticsAdd (metric : CarrierMetric) : Step Unit := ask (.diagnosticsAdd metric)

def notePublish (result : ZenohResult) : Step Unit := do
  diagnosticsAdd .publishAttempts
  if result ≠ .ok then diagnosticsAdd .publishFailures

def noteSessionFailure : Step Unit := diagnosticsAdd .sessionFailures

/-! ## Receiving -/

/-- The bytes `fill_pattern` writes. -/
def pattern (length : Nat) (seed : UInt8) : List UInt8 :=
  (List.range length).map fun index => seed + UInt8.ofNat index

def matchesPattern (buffer : Memory) (length : Nat) (seed : UInt8) : Bool :=
  (List.range length).all fun index => buffer index == seed + UInt8.ofNat index

def receiveAttempts : Nat := 64

def receiveDelayMs : Nat := 5

def settleAttempts : Nat := 200

def quietAttempts : Nat := 20

def pollOnce (state : ScenarioState) : Step Polled :=
  if state.subscriber = 0 ∨ state.subscription = 0 then pure ⟨.notOpen, 0, blankMemory⟩
  else ask (.poll state.subscriber state.subscription)

/-- `receive_expected`, with the attempts it has left. -/
def receiveExpected (state : ScenarioState) (environment : ScenarioEnvironment)
    (expectedLength : Nat) (seed : UInt8) : Nat → Step StepOutcome
  | 0 => pure .fail
  | attempts + 1 => do
      let polled ← pollOnce state
      match polled.result with
      | .ok =>
          diagnosticsAdd .framesReceived
          if polled.payloadLength.toNat ≠ expectedLength then pure .fail
          else pure (if matchesPattern polled.payload expectedLength seed then .pass else .fail)
      | .queueFull =>
          diagnosticsAdd .framesDropped
          pure .fail
      | .frameTooLarge =>
          diagnosticsAdd .framesOversized
          pure .fail
      | .queueEmpty =>
          if environment.delayMs then ask (.delayMs receiveDelayMs)
          receiveExpected state environment expectedLength seed attempts
      | _ =>
          diagnosticsAdd .pollErrors
          noteSessionFailure
          pure .fail

/-- `wait_for_burst_accounted`, with the attempts it has left. -/
def waitForBurstAccounted (bounds : ScenarioBounds) (state : ScenarioState)
    (environment : ScenarioEnvironment) (offered : Nat) (droppedBefore : BitVec 32) :
    Nat → Step Unit
  | 0 => pure ()
  | attempts + 1 => do
      let depth : Answered (BitVec 32) ←
        ask (.queueDepth state.subscriber state.subscription)
      if depth.result ≠ .ok then pure ()
      else
        let dropped : Answered (BitVec 32) ←
          ask (.droppedFrameCount state.subscriber state.subscription)
        if dropped.result ≠ .ok then pure ()
        else
          let expectedDrops := BitVec.ofNat 32 (offered - bounds.receiveQueueCapacity)
          if (bounds.receiveQueueCapacity ≤ depth.value.toNat ∧
              expectedDrops ≤ dropped.value - droppedBefore) ∨ environment.delayMs = false then
            pure ()
          else
            ask (.delayMs receiveDelayMs)
            waitForBurstAccounted bounds state environment offered droppedBefore attempts

/-- `drain_until_quiet`, with the attempts it has left. -/
def drainUntilQuiet (state : ScenarioState) (environment : ScenarioEnvironment) :
    Nat → Nat → Step Unit
  | 0, _ => pure ()
  | attempts + 1, quiet =>
      if quietAttempts ≤ quiet then pure ()
      else do
        let polled ← pollOnce state
        match polled.result with
        | .ok =>
            diagnosticsAdd .framesReceived
            drainUntilQuiet state environment attempts 0
        | .queueFull => drainUntilQuiet state environment attempts 0
        | .queueEmpty =>
            if environment.delayMs then
              ask (.delayMs receiveDelayMs)
              drainUntilQuiet state environment attempts (quiet + 1)
            else pure ()
        | _ => pure ()

/-! ## Steps 2 and 5 to 10 -/

def sessionStateStep (state : ScenarioState) (environment : ScenarioEnvironment)
    (tally : StepTally) : Step StepTally := do
  let answer : Answered SessionState ← ask (.state state.subscriber)
  if answer.result = .ok ∧ answer.value = .opened then
    record tally environment "session_state" .pass "the handle reports open"
  else record tally environment "session_state" .fail "the handle does not report open"

/-- A publish of a pattern, and its delivery where the environment models it. -/
def publishPattern (state : ScenarioState) (environment : ScenarioEnvironment) (length : Nat)
    (seed : UInt8) : Step ZenohResult := do
  let payload := pattern length seed
  let published : ZenohResult ← ask (.publish state.publisher state.key payload length)
  notePublish published
  if published = .ok ∧ environment.loopback then ask (.loopback state.key payload)
  pure published

def bidirectionalTraffic (state : ScenarioState) (environment : ScenarioEnvironment)
    (tally : StepTally) : Step StepTally := do
  let published ← publishPattern state environment 16 0x3c
  if published ≠ .ok then
    record tally environment "bidirectional_traffic" .fail "the publish was refused"
  else
    let outcome ← receiveExpected state environment 16 0x3c receiveAttempts
    record tally environment "bidirectional_traffic" outcome
      (if outcome = .pass then "frame crossed both sessions" else "frame did not arrive intact")

/-- The loss and the return of the router, each observed once. -/
def routerTransition (state : ScenarioState) : Step Bool := do
  let _ : Bool ← ask (.setRouterAvailable false)
  let lost : Answered (BitVec 32) ← ask (.connectedRouterCount state.subscriber)
  let _ : Bool ← ask (.setRouterAvailable true)
  let restored : Answered (BitVec 32) ← ask (.connectedRouterCount state.subscriber)
  pure ((lost.result = .ok ∧ lost.value = 0) ∧ restored.result = .ok ∧ 0 < restored.value)

def routerLifecycle (state : ScenarioState) (environment : ScenarioEnvironment)
    (tally : StepTally) : Step StepTally := do
  let count : Answered (BitVec 32) ← ask (.connectedRouterCount state.subscriber)
  let tally ←
    if count.result ≠ .ok then do
      noteSessionFailure
      record tally environment "router_lifecycle" .fail "the router count was not read"
    else record tally environment "router_lifecycle" .pass "the router count was read"
  if count.result = .ok ∧ environment.setRouterAvailable then
    let observed ← routerTransition state
    if observed then
      diagnosticsAdd .reconnectsObserved
      record tally environment "router_absent_then_present" .pass
        "loss and restoration both observed"
    else
      record tally environment "router_absent_then_present" .fail
        "the transition was not both observed"
  else
    record tally environment "router_absent_then_present" .unavailable
      "the run cannot drop and restore the router"

/-- The publishes of a burst. -/
def offerBurst (state : ScenarioState) (environment : ScenarioEnvironment) : Nat → Step Unit
  | 0 => pure ()
  | count + 1 => do
      let _ ← publishPattern state environment 8 0x5a
      offerBurst state environment count

/-- What draining a burst saw. -/
structure Drained where
  received : Nat
  drops : Nat
  errored : Bool

/-- The polls of step 7, with those it has left. -/
def drainBurst (state : ScenarioState) : Nat → Drained → Step Drained
  | 0, drained => pure drained
  | polls + 1, drained => do
      let polled ← pollOnce state
      match polled.result with
      | .ok =>
          diagnosticsAdd .framesReceived
          drainBurst state polls { drained with received := drained.received + 1 }
      | .queueFull =>
          diagnosticsAdd .framesDropped
          pure { drained with drops := drained.drops + 1 }
      | .queueEmpty => pure drained
      | .frameTooLarge =>
          diagnosticsAdd .framesOversized
          pure { drained with errored := true }
      | _ =>
          diagnosticsAdd .pollErrors
          noteSessionFailure
          pure { drained with errored := true }

def queueSaturation (bounds : ScenarioBounds) (state : ScenarioState)
    (environment : ScenarioEnvironment)
    (tally : StepTally) : Step StepTally := do
  let capacity := bounds.receiveQueueCapacity
  let offered := capacity + 2
  let before : Answered (BitVec 32) ←
    ask (.droppedFrameCount state.subscriber state.subscription)
  offerBurst state environment offered
  waitForBurstAccounted bounds state environment offered before.value settleAttempts
  let depth : Answered (BitVec 32) ←
    ask (.queueDepth state.subscriber state.subscription)
  let after : Answered (BitVec 32) ←
    if depth.result = .ok then ask (.droppedFrameCount state.subscriber state.subscription)
    else pure ⟨depth.result, before.value⟩
  let drained ←
    if after.result = .ok then drainBurst state offered ⟨0, 0, false⟩ else pure ⟨0, 0, true⟩
  drainUntilQuiet state environment settleAttempts 0
  if drained.errored then
    record tally environment "queue_saturation" .fail "the drain did not complete"
  else if depth.value.toNat = capacity ∧
      after.value - before.value = BitVec.ofNat 32 (offered - capacity) ∧
      drained.received = capacity ∧ drained.drops = 1 then
    record tally environment "queue_saturation" .pass
      "the queue filled, drained, and reported a drop"
  else
    record tally environment "queue_saturation" .fail
      "the burst did not end with a full queue and every excess frame dropped"

/-- The pairs of step 8 from the `index`-th on, with those it has left. -/
def continuousPairs (state : ScenarioState) (environment : ScenarioEnvironment) :
    Nat → Nat → Step Bool
  | 0, _ => pure true
  | frames + 1, index => do
      let length := 4 + index % 16
      let seed := 0x10 + UInt8.ofNat index
      let published ← publishPattern state environment length seed
      if published ≠ .ok then pure false
      else
        let outcome ← receiveExpected state environment length seed receiveAttempts
        if outcome ≠ .pass then pure false
        else continuousPairs state environment frames (index + 1)

def continuousTraffic (config : ScenarioConfig) (state : ScenarioState)
    (environment : ScenarioEnvironment)
    (tally : StepTally) : Step StepTally := do
  let frames := min (if config.continuousFrames = 0 then 1 else config.continuousFrames) 64
  let allOk ← continuousPairs state environment frames 0
  record tally environment "continuous_traffic" (if allOk then .pass else .fail)
    (if allOk then "every pair arrived intact" else "a pair did not arrive intact")

def maximumPayload (bounds : ScenarioBounds) (state : ScenarioState)
    (environment : ScenarioEnvironment)
    (tally : StepTally) : Step StepTally := do
  let published ← publishPattern state environment bounds.maxPayloadBytes 0xa5
  let outcome ←
    if published = .ok then
      receiveExpected state environment bounds.maxPayloadBytes 0xa5 receiveAttempts
    else pure .fail
  record tally environment "maximum_payload" outcome
    (if outcome = .pass then "the limit payload crossed intact"
      else "the limit payload did not arrive intact")

def oversizedPayload (bounds : ScenarioBounds) (state : ScenarioState)
    (environment : ScenarioEnvironment)
    (tally : StepTally) : Step StepTally := do
  let payload := pattern bounds.maxPayloadBytes 0x11
  let published : ZenohResult ←
    ask (.publish state.publisher state.key payload (bounds.maxPayloadBytes + 1))
  if published = .invalidArgument then
    record tally environment "oversized_payload" .pass "the oversized publish was refused"
  else record tally environment "oversized_payload" .fail "the oversized publish was not refused"

/-! ## The summary -/

def ResourceMetric.all : List ResourceMetric :=
  [.freeHeapBytes, .minFreeHeapBytes, .largestFreeBlockBytes, .mainStackHighWaterBytes,
    .workerStackHighWaterBytes, .steadyStateAllocations]

def ResourceMetric.name : ResourceMetric → CString
  | .freeHeapBytes => .literal "freeHeapBytes"
  | .minFreeHeapBytes => .literal "minFreeHeapBytes"
  | .largestFreeBlockBytes => .literal "largestFreeBlockBytes"
  | .mainStackHighWaterBytes => .literal "mainStackHighWaterBytes"
  | .workerStackHighWaterBytes => .literal "workerStackHighWaterBytes"
  | .steadyStateAllocations => .literal "steadyStateAllocations"

/-- The reads of `build_resources_json`, up to the first that fails. -/
def readResources : List ResourceMetric → ReportSink → Step (Option ReportSink)
  | [], sink => pure (some sink)
  | metric :: metrics, sink => do
      let answer : Option (BitVec 32) ← ask (.readResource metric)
      match answer with
      | none => pure none
      | some value => readResources metrics (sink.keyUnsigned metric.name value).2

/-- `build_resources_json`: the object, if one fitted. -/
def buildResourcesJson (environment : ScenarioEnvironment) : Step (Option (List UInt8)) := do
  let begun := reportBegin (some blankMemory) 384
  let read ←
    if environment.readResource then readResources ResourceMetric.all begun else pure none
  match read.bind ReportSink.line with
  | some object => pure (some object)
  | none => pure (ReportSink.calls [.keyString (.literal "status") (.literal "unexecuted"),
      .keyString (.literal "reason") (.literal "the run could not read device resources")]
      begun).2.line

/-- `zenoh_carrier_report_key_raw`. -/
def ReportSink.keyRaw (sink : ReportSink) (key : CString) (raw : List UInt8) : Bool × ReportSink :=
  andThen (sink.keyPrefix key) (appendText raw)

/-- The part of `zenoh_carrier_scenario_run` from its label `summary` on. -/
def summary (tally : StepTally) (environment : ScenarioEnvironment) : Step Int := do
  let failed := tally.stepsTotal - tally.stepsPassed - tally.stepsUnavailable
  let result := if failed = 0 then "pass" else "fail"
  let sink := (ReportSink.calls [.keyString (.literal "scenario") scenarioName,
    .keyString (.literal "step") (.literal "summary"),
    .keyString (.literal "result") (.literal result),
    .keyUnsigned (.literal "steps") (BitVec.ofNat 32 tally.stepsTotal),
    .keyUnsigned (.literal "passed") (BitVec.ofNat 32 tally.stepsPassed),
    .keyUnsigned (.literal "unavailable") (BitVec.ofNat 32 tally.stepsUnavailable),
    .keyUnsigned (.literal "failed") (BitVec.ofNat 32 failed),
    .keyUnsigned (.literal "flashImageBytes") environment.flashImageBytes]
    (reportBegin (some blankMemory) reportLineCapacity)).2
  let carrier : Option (List UInt8) ← ask (.diagnosticsWriteJson 512)
  let noCarrier : CString := .literal "\x7b\"status\":\"unavailable\"\x7d"
  let sink := (sink.keyRaw (.literal "carrier") (carrier.getD noCarrier.bytes)).2
  let resources ← buildResourcesJson environment
  let noResources : CString := .literal ("\x7b\"status\":\"unexecuted\",\"reason\":" ++
    "\"the resource object did not fit the report buffer\"\x7d")
  let sink := (sink.keyRaw (.literal "resources") (resources.getD noResources.bytes)).2
  match sink.line with
  | some line => ask (.emitJsonl line)
  | none => pure ()
  pure (if failed = 0 then 0 else 1)

/-! ## The scenario -/

def openSession (config : ZenohConfig) : Scenario (Answered FacadeHandle) :=
  Script.ask (ScenarioCall.open config)

def closeSession (session : FacadeHandle) : Scenario ZenohResult :=
  Script.ask (ScenarioCall.close session)

def subscribeSession (session : FacadeHandle) (key : List UInt8) :
    Scenario (Answered FacadeHandle) :=
  Script.ask (ScenarioCall.subscribe session key)

/-- `build_config`. -/
def buildConfig (config : ScenarioConfig) : ZenohConfig :=
  ⟨.client, config.connectEndpoint, config.connectEndpointLength, false⟩

/-- A close in step 11: whether it succeeded. -/
def closeCounted (session : FacadeHandle) : Scenario Bool := do
  let closed ← closeSession session
  if closed = .ok then
    Step.run (diagnosticsAdd .sessionCloses)
    pure true
  else
    Step.run noteSessionFailure
    pure false

/-- Step 11. The handles it clears are not read again. -/
def cleanShutdown (state : ScenarioState) (environment : ScenarioEnvironment)
    (tally : StepTally) : Scenario StepTally := do
  let unsubscribed ← Step.run do
    let answer : ZenohResult ← ask (.unsubscribe state.subscriber state.subscription)
    if answer = .ok then
      ask (.setActiveSubscriptions 0)
      pure true
    else
      noteSessionFailure
      pure false
  let publisherClosed ← closeCounted state.publisher
  let subscriberClosed ← closeCounted state.subscriber
  Step.run do
    let answer : Answered SessionState ← ask (.state state.subscriber)
    let clean := unsubscribed && publisherClosed && subscriberClosed &&
      !(answer.result = .ok && answer.value ≠ .closed)
    record tally environment "clean_shutdown" (if clean then .pass else .fail)
      (if clean then "subscription removed and both sessions closed" else "shutdown was not clean")

/-- The cycles of step 12, with those it has left. -/
def reconnectCycles (config : ZenohConfig) : Nat → Scenario Bool
  | 0 => pure true
  | cycles + 1 => do
      let session ← openSession config
      if session.result ≠ .ok then
        Step.run noteSessionFailure
        pure false
      else
        Step.run (diagnosticsAdd .sessionOpens)
        let closed ← closeSession session.value
        if closed ≠ .ok then
          Step.run noteSessionFailure
          pure false
        else
          Step.run (diagnosticsAdd .sessionCloses)
          reconnectCycles config cycles

/-- Step 12. -/
def repeatedReconnect (config : ScenarioConfig) (environment : ScenarioEnvironment)
    (tally : StepTally) : Scenario StepTally := do
  let cycles := min (if config.reconnectCycles = 0 then 1 else config.reconnectCycles) 200
  let allOk ← reconnectCycles (buildConfig config) cycles
  Step.run (record tally environment "repeated_reconnect" (if allOk then .pass else .fail)
    (if allOk then "every open and close succeeded" else "a reconnect cycle did not complete"))

/-- Steps 5 to 12 and the summary. -/
def afterSubscribe (bounds : ScenarioBounds) (config : ScenarioConfig)
    (environment : ScenarioEnvironment) (state : ScenarioState) (tally : StepTally) :
    Scenario Int := do
  let tally ← Step.run do
    ask (.setActiveSubscriptions 1)
    let tally ← record tally environment "subscribe" .pass "one subscription declared"
    let tally ← bidirectionalTraffic state environment tally
    let tally ← routerLifecycle state environment tally
    let tally ← queueSaturation bounds state environment tally
    let tally ← continuousTraffic config state environment tally
    let tally ← maximumPayload bounds state environment tally
    oversizedPayload bounds state environment tally
  let tally ← cleanShutdown state environment tally
  let tally ← repeatedReconnect config environment tally
  Step.run (summary tally environment)

/-- A failed step that jumps to the summary. -/
def failAt (environment : ScenarioEnvironment) (tally : StepTally) (step detail : String) :
    Scenario Int :=
  Step.run do
    noteSessionFailure
    let tally ← record tally environment step .fail detail
    summary tally environment

/-- Step 4 and what follows. -/
def afterSecondOpen (bounds : ScenarioBounds) (config : ScenarioConfig)
    (environment : ScenarioEnvironment) (state : ScenarioState) (tally : StepTally) :
    Scenario Int := do
  let tally ← Step.run do
    diagnosticsAdd .sessionOpens
    record tally environment "open_publisher" .pass "second session opened"
  let subscription ← subscribeSession state.subscriber state.key
  let state := { state with subscription := subscription.value }
  if subscription.result = .ok then afterSubscribe bounds config environment state tally
  else failAt environment tally "subscribe" "the subscription was not declared"

/-- Steps 2 and 3 and what follows. -/
def afterFirstOpen (bounds : ScenarioBounds) (config : ScenarioConfig)
    (environment : ScenarioEnvironment) (state : ScenarioState) (tally : StepTally) :
    Scenario Int := do
  let tally ← Step.run do
    diagnosticsAdd .sessionOpens
    let tally ← record tally environment "cold_boot" .pass "first session opened"
    sessionStateStep state environment tally
  let publisher ← openSession (buildConfig config)
  let state := { state with publisher := publisher.value }
  if publisher.result = .ok then afterSecondOpen bounds config environment state tally
  else failAt environment tally "open_publisher" "the second open did not return OK"

/-- `zenoh_carrier_scenario_run` after the checks of its arguments. -/
def scenarioChecked (bounds : ScenarioBounds) (config : ScenarioConfig)
    (environment : ScenarioEnvironment) (key : List UInt8) : Scenario Int := do
  diagnosticsReset.run
  let subscriber ← openSession (buildConfig config)
  let state : ScenarioState := ⟨subscriber.value, 0, 0, key⟩
  let tally : StepTally := ⟨0, 0, 0⟩
  if subscriber.result = .ok then afterFirstOpen bounds config environment state tally
  else failAt environment tally "cold_boot" "the first open did not return OK"

/-- The key of a run whose arguments are accepted. -/
def acceptedKey (bounds : ScenarioBounds) (config : ScenarioConfig)
    (environment : ScenarioEnvironment) : Option (List UInt8) :=
  if environment.emitJsonl = false then none
  else match config.key with
    | none => none
    | some key => if config.keyLength = 0 ∨ bounds.maxKeyBytes < config.keyLength then none
      else some (key.bytes config.keyLength)

/-- `zenoh_carrier_scenario_run`. -/
def zenohCarrierScenarioRun (bounds : ScenarioBounds) (config : Option ScenarioConfig)
    (environment : Option ScenarioEnvironment) : Scenario Int :=
  match config, environment with
  | some config, some environment => match acceptedKey bounds config environment with
    | some key => scenarioChecked bounds config environment key
    | none => pure 64
  | _, _ => pure 64

end AxolotyEmbedded.Zenoh
