import Mathlib.Data.Finset.Insert
import Mathlib.Data.Finset.Lattice.Basic
import AxolotyEmbedded.DeviceAgent.StaticDeviceAgent
import AxolotyEmbedded.Library.Transition

/-!
The message sequence of a device agent (`runAgentMessageSequence`). One turn of its loop
is one step, and the label of the step holds what the platform and the carrier answer in
that turn. Role A encodes one Advertise before the loop, into the two buffers that every
later encoding uses as well.
-/
namespace AxolotyEmbedded.DeviceAgent

inductive DeviceAgentScenario where
  | exchange | lastWill | brokerRestart | hostManagedLastWill
  deriving DecidableEq, Repr

inductive ExchangeBit where
  | wifi | ip | connected | subscribed | advertised | discovered | resolved | deadvertised
  | disconnected | reconnected | brokerReconnected
  deriving DecidableEq, Repr

abbrev AgentExchangeResult := Finset ExchangeBit

inductive Publication where
  | advertise | response | deadvertise | control
  deriving DecidableEq, Repr

/-- What the exchange asks of the carrier and the platform, in order. -/
inductive Effect where
  | publish (cause : Publication) (topic payload : List UInt8)
  | subscribe (route : List UInt8) (deadlineMS : Nat)
  | unsubscribe (route : List UInt8) (deadlineMS : Nat)
  | exchangeMilestone (reached : ExchangeBit)
  | delay (milliseconds : Nat)
  deriving DecidableEq

def milliseconds (nowMicroseconds : Int) : Nat := (nowMicroseconds.tdiv 1000).toNat

def remaining (endMS : Nat) (nowMicroseconds : Int) : Nat :=
  min (endMS - milliseconds nowMicroseconds) 0xFFFFFFFF

structure Exchange where
  role : DeviceAgentRole
  scenario : DeviceAgentScenario
  endMS : Nat

/-- The answers of one turn. A carrier call returns an `Int32`, and the inbound frame is
read only when `polled` is 1. -/
structure Turn where
  loopMicroseconds : Int
  nowMicroseconds : Int
  expireMicroseconds : Int
  advertiseAccepted : Int
  polled : Int
  inbound : Endpoint.Inbound
  responseAccepted : Int
  routeMicroseconds : Int
  deadvertisePlatform : Platform
  deadvertiseAccepted : Int

variable {core : Core} {run : Exchange}

/-- The variables of the sequence, and what it has asked for so far. -/
structure MessageSequence (core : Core) where
  endpoint : Endpoint core
  advertisedTopicLength : Int
  advertisedPayloadLength : Int
  advertisementPrepared : Bool
  actorRoute : Memory
  actorRouteLength : Int
  nextAdvertiseMS : Nat
  exchangeComplete : Bool
  deadvertiseDelayStarted : Bool
  deadvertiseReadyAtMS : Nat
  deadvertisePublishedAtMS : Option Nat
  result : AgentExchangeResult
  effects : List Effect

namespace MessageSequence

def did (s : MessageSequence core) (effect : Effect) : MessageSequence core :=
  { s with effects := s.effects ++ [effect] }

def gain (s : MessageSequence core) (bit : ExchangeBit) : MessageSequence core :=
  { s with result := insert bit s.result }

/-- `prepareAgentMessage`: the buffers it leaves, and the two lengths when it succeeds. -/
def prepareAgentMessage (endpoint : Endpoint core) (role : DeviceAgentRole)
    (kind : StaticAgentMessageKind) (platform : Platform) : Endpoint core × Option (Int × Int) :=
  match endpoint.preparePhase4Message role kind none platform with
  | (endpoint, none) => (endpoint, none)
  | (endpoint, some (topicLength, payloadLength)) =>
      (endpoint, if 0 < topicLength then some (topicLength, payloadLength) else none)

/-- `publishAgentMessage`, and the guarded publication of `handleAgentMessage`. -/
def publishAgentMessage (s : MessageSequence core) (cause : Publication)
    (topicLength payloadLength accepted : Int) : MessageSequence core × Bool :=
  if 0 < topicLength ∧ 0 ≤ payloadLength then
    (s.did (.publish cause (s.endpoint.topic.bytes topicLength.toNat)
      (s.endpoint.payload.bytes payloadLength.toNat)), accepted ≠ 0)
  else (s, false)

/-- The sequence up to its loop. The buffers hold whatever the stack held, and `result`
is what the network setup reached. -/
def start (run : Exchange) (endpoint : Endpoint core) (actorRoute : Memory)
    (platform : Platform) (result : AgentExchangeResult) : MessageSequence core :=
  let (endpoint, prepared) :=
    match run.role with
    | .roleA => prepareAgentMessage endpoint .roleA .advertise platform
    | .roleB => (endpoint, some (0, 0))
  { endpoint
    advertisedTopicLength := (prepared.getD (0, 0)).1
    advertisedPayloadLength := (prepared.getD (0, 0)).2
    advertisementPrepared := prepared.isSome
    actorRoute
    actorRouteLength := 0
    nextAdvertiseMS := 0
    exchangeComplete := false
    deadvertiseDelayStarted := false
    deadvertiseReadyAtMS := 0
    deadvertisePublishedAtMS := none
    result
    effects := [] }

def expire (run : Exchange) (nowMicroseconds : Int) (s : MessageSequence core) :
    MessageSequence core :=
  match run.role with
  | .roleA => s
  | .roleB =>
      let agent := s.endpoint.phase4AgentB
      let processor := (core.expire agent.processor (phase4NowMS nowMicroseconds)).1
      { s with endpoint := { s.endpoint with phase4AgentB := { agent with processor } } }

/-- A last will keeps the Advertise going after a peer has answered. -/
def AdvertiseDue (run : Exchange) (nowMS : Nat) (s : MessageSequence core) : Prop :=
  run.role = .roleA ∧ (run.scenario = .lastWill ∨ .discovered ∉ s.result) ∧
    s.nextAdvertiseMS ≤ nowMS

instance (nowMS : Nat) (s : MessageSequence core) : Decidable (s.AdvertiseDue run nowMS) :=
  inferInstanceAs (Decidable (_ ∧ _ ∧ _))

def sendAdvertise (accepted : Int) (s : MessageSequence core) : MessageSequence core × Bool :=
  if s.advertisementPrepared then
    s.publishAgentMessage .advertise s.advertisedTopicLength s.advertisedPayloadLength accepted
  else (s, false)

def advertise (run : Exchange) (nowMS : Nat) (accepted : Int) (s : MessageSequence core) :
    MessageSequence core :=
  if s.AdvertiseDue run nowMS then
    let (t, sent) := s.sendAdvertise accepted
    let firstAdvertise := .advertised ∉ t.result
    let t := if sent then t.gain .advertised else t
    let t := if sent ∧ firstAdvertise then t.did (.exchangeMilestone .advertised) else t
    { t with nextAdvertiseMS := nowMS + if run.scenario = .lastWill then 1000 else 2000 }
  else s

/-- `handleAgentMessage`; the answer says whether the exchange is complete. -/
def handleAgentMessage (run : Exchange) (turn : Turn) (action : StaticAgentAction)
    (lengths : Int × Int) (s : MessageSequence core) : MessageSequence core × Bool :=
  match action, run.role with
  | .response, .roleB =>
      let s := s.gain .advertised
      if run.scenario = .lastWill then
        (s.did (.publish .control (staticString "axoloty/test/agent-observed/B")
          (staticString "advertise")), false)
      else
        let (s, sent) :=
          s.publishAgentMessage .response lengths.1 lengths.2 turn.responseAccepted
        (if sent then s.gain .discovered else s, false)
  | .response, .roleA =>
      let (s, sent) := (s.gain .discovered).publishAgentMessage .response lengths.1 lengths.2
        turn.responseAccepted
      (if sent then (s.gain .resolved).did (.exchangeMilestone .resolved) else s, false)
  | .resolved, _ => (s.gain .resolved, false)
  | .deadvertised, role => (s.gain .deadvertised, role = .roleB)
  | .actorAssociated, role =>
      if core.maxTopicLength = 0 then (s, false)
      else
        let agent := s.endpoint.agent role
        let (actorRoute, length) := core.copyActorRoute agent.processor agent.actorId s.actorRoute
          core.maxTopicLength
        let s := { s with actorRoute }
        match length with
        | none => (s, false)
        | some length =>
            if 0 < length ∧ length ≤ core.maxTopicLength then
              (({ s with actorRouteLength := length }).did (.subscribe
                (actorRoute.bytes length.toNat)
                (remaining run.endMS turn.routeMicroseconds)), false)
            else (s, false)
  | .actorDisassociated, _ =>
      if 0 < s.actorRouteLength then
        ({ s.did (.unsubscribe (s.actorRoute.bytes s.actorRouteLength.toNat)
            (remaining run.endMS turn.routeMicroseconds)) with actorRouteLength := 0 }, false)
      else (s, false)
  | .ioValueDelivered, _ | .ignored, _ | .rejected, _ => (s, false)

/-- A response is encoded into the retained buffers, and the action is handled. -/
def received (run : Exchange) (turn : Turn) (s : MessageSequence core) :
    MessageSequence core × Bool :=
  let (endpoint, action, lengths) := s.endpoint.receiveStaticAgentMessage run.role turn.inbound
  let lengths : Nat × Nat := lengths.getD (0, 0)
  ({ s with endpoint }).handleAgentMessage run turn action (lengths.1, lengths.2)

def receive (run : Exchange) (turn : Turn) (s : MessageSequence core) : MessageSequence core :=
  if turn.polled = 1 then
    let (s, exchangeComplete) := s.received run turn
    { s with exchangeComplete }
  else if turn.polled = -2 ∧ run.scenario = .hostManagedLastWill ∧ run.role = .roleA ∧
      .resolved ∈ s.result then
    { s.gain .deadvertised with exchangeComplete := true }
  else if turn.polled < 0 then { s with exchangeComplete := true }
  else s

def deadvertise (run : Exchange) (nowMS : Nat) (turn : Turn) (s : MessageSequence core) :
    MessageSequence core :=
  if run.role = .roleA ∧ .resolved ∈ s.result ∧ run.scenario ≠ .lastWill ∧
      run.scenario ≠ .hostManagedLastWill ∧ .deadvertised ∉ s.result then
    if s.deadvertiseDelayStarted = false then
      { s with deadvertiseDelayStarted := true, deadvertiseReadyAtMS := nowMS + 500 }
    else if s.deadvertiseReadyAtMS ≤ nowMS then
      match prepareAgentMessage s.endpoint .roleA .deadvertise turn.deadvertisePlatform with
      | (endpoint, none) => { s with endpoint }
      | (endpoint, some (topicLength, payloadLength)) =>
          let (s, sent) := ({ s with endpoint }).publishAgentMessage .deadvertise topicLength
            payloadLength turn.deadvertiseAccepted
          if sent then { s.gain .deadvertised with deadvertisePublishedAtMS := some nowMS } else s
    else s
  else s

def conclude (run : Exchange) (nowMS : Nat) (s : MessageSequence core) : MessageSequence core :=
  let deadvertiseSettled := run.role = .roleA ∧
    ∃ publishedAt ∈ s.deadvertisePublishedAtMS, publishedAt + 500 ≤ nowMS
  let s := if deadvertiseSettled ∨ run.role = .roleB ∧ .deadvertised ∈ s.result then
    { s with exchangeComplete := true } else s
  if s.exchangeComplete then s else s.did (.delay 20)

def next (run : Exchange) (s : MessageSequence core) (turn : Turn) :
    Option (MessageSequence core) :=
  if s.exchangeComplete = false ∧ 0 < remaining run.endMS turn.loopMicroseconds then
    let nowMS := milliseconds turn.nowMicroseconds
    some ((((s.expire run turn.expireMicroseconds).advertise run nowMS
      turn.advertiseAccepted).receive run turn).deadvertise run nowMS turn |>.conclude run nowMS)
  else none

end MessageSequence
end AxolotyEmbedded.DeviceAgent
