import AxolotyEmbedded.Bytes
import AxolotyEmbedded.Zenoh.Diagnostics
import AxolotyEmbedded.Zenoh.KeyExpression
import AxolotyEmbedded.Zenoh.Queue

/-!
`ZenohCarrier`: one session behind eight fixed subscription slots, polled
round-robin into one frame store. A call is one step; its label carries the
arguments and every answer the call gets from Core's session, from the clock
and from the endpoint helper. `SessionView` is what the session has been told
and has handed out; the carrier does not read it.
-/
namespace AxolotyEmbedded.Zenoh

abbrev maximumSubscriptions : Nat := 8

inductive Phase where
  | idle | connected | subscribed | disconnected
  deriving DecidableEq, Repr

inductive ZenohCarrierPollOutcome where
  | frame | noEvent | closed | insufficientCapacity | failed
  deriving DecidableEq, Repr

variable {Token : Type}

/-- `key` is the first `keyLength` bytes of the slot's key storage. -/
structure ZenohCarrierSlot (Token : Type) where
  active : Bool
  key : List UInt8
  subscription : Option Token

def ZenohCarrierSlot.unused : ZenohCarrierSlot Token := ⟨false, [], none⟩

structure ZenohCarrier (Token : Type) where
  phase : Phase
  connectedRouterObserved : Bool
  routerLossObserved : Bool
  frames : Message
  hasPendingFrame : Bool
  pollCursor : Fin maximumSubscriptions
  lastKeepAliveMS : BitVec 64
  slots : Fin maximumSubscriptions → ZenohCarrierSlot Token

namespace ZenohCarrier
variable (carrier : ZenohCarrier Token)

def initial : ZenohCarrier Token where
  phase := .idle
  connectedRouterObserved := false
  routerLossObserved := false
  frames := ⟨[], []⟩
  hasPendingFrame := false
  pollCursor := 0
  lastKeepAliveMS := 0
  slots := fun _ => .unused

def setSlotAt (index : Fin maximumSubscriptions) (slot : ZenohCarrierSlot Token) :
    ZenohCarrier Token :=
  { carrier with slots := Function.update carrier.slots index slot }

/-- The first slot that holds exactly this key. -/
def findSlot (key : List UInt8) : Option (Fin maximumSubscriptions) :=
  (List.finRange maximumSubscriptions).find? fun index =>
    (carrier.slots index).active && (carrier.slots index).key == key

def findFreeSlot : Option (Fin maximumSubscriptions) :=
  (List.finRange maximumSubscriptions).find? fun index => !(carrier.slots index).active

def activeSlotCount : Nat :=
  (List.finRange maximumSubscriptions).countP fun index => (carrier.slots index).active

end ZenohCarrier

/-! ## The session and the caller -/

/-- One live declaration of the session. -/
structure Declaration (Token : Type) where
  token : Token
  key : List UInt8
  deriving DecidableEq

/-- The live declarations, the tokens polled, the frames taken and the messages
passed to `publish`, each oldest first. -/
structure SessionView (Token : Type) where
  live : List (Declaration Token)
  polled : List Token
  taken : List Message
  published : List Message

def SessionView.opened : SessionView Token := ⟨[], [], [], []⟩

namespace SessionView
variable (session : SessionView Token)

def subscribe (key : List UInt8) (token : Token) : SessionView Token :=
  { session with live := session.live ++ [⟨token, key⟩] }

def unsubscribe [DecidableEq Token] (token : Token) (result : ZenohResult) : SessionView Token :=
  if result = .ok then
    { session with live := session.live.filter fun declaration => declaration.token ≠ token }
  else session

def poll (token : Token) (answer : Except ZenohResult Message) : SessionView Token :=
  { session with
    polled := session.polled ++ [token]
    taken := session.taken ++ answer.toOption.toList }

def publish (message : Message) : SessionView Token :=
  { session with published := session.published ++ [message] }

def close : SessionView Token := { session with live := [] }

end SessionView

/-- `UInt64(max(0, esp_timer_get_time() / 1_000))` for one reading of the clock. -/
def milliseconds (reading : BitVec 64) : BitVec 64 :=
  BitVec.ofNat 64 (reading.toInt.tdiv 1000).toNat

def keepAliveIntervalMS : BitVec 64 := 3000

/-- One turn of the waiting loop: the clock, the router count, the clock again. -/
structure RouterRound where
  now : BitVec 64
  answer : Except ZenohResult Nat
  after : BitVec 64

/-- What a call returned. -/
inductive CarrierReply where
  | done (value : Bool)
  | polled (outcome : ZenohCarrierPollOutcome)
  deriving DecidableEq, Repr

/-- The carrier, its counters, its session, and what its caller has received:
the result of the last call and every message returned with `.frame`. -/
structure CarrierSystem (Token : Type) where
  carrier : ZenohCarrier Token
  diagnostics : CarrierDiagnostics
  session : SessionView Token
  reply : Option CarrierReply
  delivered : List Message

namespace CarrierSystem
variable (s : CarrierSystem Token)

def initial : CarrierSystem Token := ⟨.initial, .zeroed, .opened, none, []⟩

/-! ## Counting -/

def count (metric : CarrierMetric) : CarrierSystem Token :=
  { s with diagnostics := s.diagnostics.add metric }

def notePublishOutcome (result : ZenohResult) : CarrierSystem Token :=
  if result = .ok then s.count .publishAttempts
  else ((s.count .publishAttempts).count .publishFailures).count .sessionFailures

def notePublishRefusedLocally : CarrierSystem Token :=
  (s.count .publishAttempts).count .publishFailures

def notePollOutcome : ZenohResult → CarrierSystem Token
  | .queueFull => s.count .framesDropped
  | .frameTooLarge => s.count .framesOversized
  | .ok | .queueEmpty => s
  | .notOpen => s.count .sessionFailures
  | _ => (s.count .pollErrors).count .sessionFailures

def noteSessionOpen (result : ZenohResult) : CarrierSystem Token :=
  s.count (if result = .ok then .sessionOpens else .sessionFailures)

def noteSessionClose (result : ZenohResult) : CarrierSystem Token :=
  s.count (if result = .ok then .sessionCloses else .sessionFailures)

def noteSubscriptionFailure : CarrierSystem Token := s.count .sessionFailures

def publishSubscriptionGauge : CarrierSystem Token :=
  { s with
    diagnostics := s.diagnostics.setActiveSubscriptions (BitVec.ofNat 32 s.carrier.activeSlotCount) }

/-! ## Opening, declaring, publishing -/

/-- `endpointLength` is what the endpoint helper returned. -/
def connect (endpointLength : Int) (opened : ZenohResult) (routers : Except ZenohResult Nat) :
    Bool × CarrierSystem Token :=
  if s.carrier.phase = .idle ∨ s.carrier.phase = .disconnected then
    if 0 < endpointLength then
      let s := s.noteSessionOpen opened
      if opened = .ok then
        let observed := match routers with
          | .ok count => decide (0 < count)
          | .error _ => false
        let carrier := { s.carrier with connectedRouterObserved := observed, phase := .connected }
        (true, { s with carrier := carrier }.publishSubscriptionGauge)
      else (false, s)
    else (false, s)
  else (false, s)

/-- `answer` is the token of a `.subscribed` answer, or the result. -/
def subscribe (bounds : CarrierBounds) (topic : List UInt8) (answer : Except ZenohResult Token) :
    Bool × CarrierSystem Token :=
  if (s.carrier.phase = .connected ∨ s.carrier.phase = .subscribed) ∧ topic ≠ [] ∧
      topic.length ≤ bounds.maxTopicBytes then
    if KeyExpression.isValidSubscription topic then
      match s.carrier.findSlot topic with
      | some _ => (true, s)
      | none =>
          match s.carrier.findFreeSlot with
          | none => (false, s.noteSubscriptionFailure)
          | some free =>
              match answer with
              | .ok handle =>
                  let carrier := s.carrier.setSlotAt free ⟨true, topic, some handle⟩
                  (true, { s with
                    carrier := { carrier with phase := .subscribed }
                    session := s.session.subscribe topic handle }.publishSubscriptionGauge)
              | .error _ => (false, s.noteSubscriptionFailure)
    else (false, s.noteSubscriptionFailure)
  else (false, s.noteSubscriptionFailure)

def unsubscribe [DecidableEq Token] (bounds : CarrierBounds) (topic : List UInt8)
    (result : ZenohResult) : Bool × CarrierSystem Token :=
  if s.carrier.phase = .subscribed ∧ topic ≠ [] ∧ topic.length ≤ bounds.maxTopicBytes then
    match s.carrier.findSlot topic with
    | none => (false, s.noteSubscriptionFailure)
    | some index =>
        match (s.carrier.slots index).subscription with
        | none => (false, s.noteSubscriptionFailure)
        | some handle =>
            let s := { s with session := s.session.unsubscribe handle result }
            if result = .ok then
              (true, { s with carrier := s.carrier.setSlotAt index .unused }.publishSubscriptionGauge)
            else (false, s.noteSubscriptionFailure)
  else (false, s.noteSubscriptionFailure)

def publish (bounds : CarrierBounds) (message : Message) (result : ZenohResult) :
    Bool × CarrierSystem Token :=
  if s.carrier.phase = .subscribed ∧ message.key ≠ [] ∧
      message.key.length ≤ bounds.maxTopicBytes ∧
      message.payload.length ≤ bounds.maxPayloadBytes then
    if KeyExpression.isValidPublication message.key then
      (decide (result = .ok),
        { s with session := s.session.publish message }.notePublishOutcome result)
    else (false, s.notePublishRefusedLocally)
  else (false, s.notePublishRefusedLocally)

/-! ## Polling -/

/-- Each part is copied when it fits on its own, also when the other does not. -/
def copyPendingFrame (capacities : PollCapacities) (storage : CallerStorage) :
    ZenohCarrierPollOutcome × CarrierSystem Token × CallerStorage :=
  let key := s.carrier.frames.key
  let payload := s.carrier.frames.payload
  let keyOK := 0 < key.length ∧ (key.length : Int) ≤ capacities.topic
  let payloadOK := (payload.length : Int) ≤ capacities.payload
  let storage := if keyOK then { storage with
    topic := storage.topic.copy (Memory.ofList key) key.length
    topicLength := key.length } else storage
  let storage := if payloadOK then { storage with
    payload := storage.payload.copy (Memory.ofList payload) payload.length
    payloadLength := payload.length } else storage
  if keyOK ∧ payloadOK then
    (.frame, { s with carrier := { s.carrier with hasPendingFrame := false } }.count .framesReceived,
      storage)
  else (.insufficientCapacity, s, storage)

/-- The router count the session answers with is not used. -/
def keepSessionAlive (reading : BitVec 64) : CarrierSystem Token :=
  let nowMS := milliseconds reading
  if keepAliveIntervalMS ≤ nowMS - s.carrier.lastKeepAliveMS then
    { s with carrier := { s.carrier with lastKeepAliveMS := nowMS } }
  else s

def advanceCursor : CarrierSystem Token :=
  { s with carrier := { s.carrier with pollCursor := s.carrier.pollCursor + 1 } }

/-- The turns left of the round over the slots. A slot is met once in a round,
and `answers` gives what the session answers for each. -/
def pollSlots (capacities : PollCapacities)
    (answers : Fin maximumSubscriptions → Except ZenohResult Message) (storage : CallerStorage) :
    Nat → CarrierSystem Token → ZenohCarrierPollOutcome × CarrierSystem Token × CallerStorage
  | 0, s => (.noEvent, s, storage)
  | turns + 1, s =>
      let s := s.advanceCursor
      let slot := s.carrier.slots s.carrier.pollCursor
      match slot.active, slot.subscription with
      | true, some handle =>
          let answer := answers s.carrier.pollCursor
          let s := { s with session := s.session.poll handle answer }
          match answer with
          | .ok message =>
              { s with carrier := { s.carrier with
                frames := message
                hasPendingFrame := true } }.copyPendingFrame capacities storage
          | .error result =>
              let s := s.notePollOutcome result
              match result with
              | .queueEmpty | .frameTooLarge => pollSlots capacities answers storage turns s
              | .notOpen => (.closed, s, storage)
              | _ => (.failed, s, storage)
      | _, _ => pollSlots capacities answers storage turns s

def pollOneEventOutcome (bounds : CarrierBounds) (capacities : PollCapacities)
    (storage : CallerStorage) (reading : BitVec 64)
    (answers : Fin maximumSubscriptions → Except ZenohResult Message) :
    ZenohCarrierPollOutcome × CarrierSystem Token × CallerStorage :=
  if capacities.Admitted bounds then
    if s.carrier.phase = .disconnected then (.closed, s, storage)
    else if s.carrier.phase = .subscribed then
      if s.carrier.hasPendingFrame then s.copyPendingFrame capacities storage
      else if 0 < s.carrier.activeSlotCount then
        pollSlots capacities answers storage maximumSubscriptions (s.keepSessionAlive reading)
      else (.noEvent, s, storage)
    else (.failed, s, storage)
  else (.failed, s, storage)

/-! ## Waiting for a router -/

/-- What one router count does, before the loop and inside it: the value the
call returns with, if it returns. -/
def observeRouters (answer : Except ZenohResult Nat) : Option Bool × CarrierSystem Token :=
  match answer with
  | .ok routers =>
      if routers = 0 then
        (none, { s with carrier := { s.carrier with
          routerLossObserved := s.carrier.connectedRouterObserved || s.carrier.routerLossObserved
          connectedRouterObserved := false } })
      else
        let s := if s.carrier.routerLossObserved then
          { s with carrier := { s.carrier with routerLossObserved := false } }.count
            .reconnectsObserved
        else s
        (some true, { s with carrier := { s.carrier with connectedRouterObserved := true } })
  | .error result => (if result = .notOpen then some false else none, s)

/-- The loop until the deadline; `none` while it has not returned. -/
def waitRounds (endMS : BitVec 64) :
    List RouterRound → CarrierSystem Token → Option (Bool × CarrierSystem Token)
  | [], _ => none
  | round :: rounds, s =>
      if milliseconds round.now < endMS ∧ milliseconds round.after < endMS then
        match s.observeRouters round.answer with
        | (some returned, s) => some (returned, s)
        | (none, s) => waitRounds endMS rounds s
      else some (false, s)

def waitForReconnect (deadlineMS : BitVec 32) (start : BitVec 64)
    (first : Except ZenohResult Nat) (rounds : List RouterRound) :
    Option (Bool × CarrierSystem Token) :=
  if s.carrier.phase = .subscribed then
    let startMS := milliseconds start
    let durationMS := deadlineMS.setWidth 64
    let endMS := if BitVec.allOnes 64 - startMS < durationMS then BitVec.allOnes 64
      else startMS + durationMS
    match s.observeRouters first with
    | (some returned, s) => some (returned, s)
    | (none, s) => waitRounds endMS rounds s
  else some (false, s)

/-! ## Teardown -/

/-- One turn of the unsubscribing loop of `disconnect`. -/
def releaseSlot [DecidableEq Token] (unsubscribed : Fin maximumSubscriptions → ZenohResult)
    (s : CarrierSystem Token) (index : Fin maximumSubscriptions) : CarrierSystem Token :=
  match (s.carrier.slots index).active, (s.carrier.slots index).subscription with
  | true, some handle =>
      let s := { s with session := s.session.unsubscribe handle (unsubscribed index) }
      if unsubscribed index = .ok then { s with carrier := s.carrier.setSlotAt index .unused }
      else s.noteSubscriptionFailure
  | _, _ => s

def disconnect [DecidableEq Token] (unsubscribed : Fin maximumSubscriptions → ZenohResult)
    (closed : ZenohResult) : Bool × CarrierSystem Token :=
  if s.carrier.phase = .connected ∨ s.carrier.phase = .subscribed then
    let s := (List.finRange maximumSubscriptions).foldl (releaseSlot unsubscribed) s
    let s := { s with session := s.session.close }.noteSessionClose closed
    let s := { s with carrier := { s.carrier with slots := fun _ => .unused } }
    let s := s.publishSubscriptionGauge
    (decide (closed = .ok), { s with carrier := { s.carrier with
      hasPendingFrame := false
      connectedRouterObserved := false
      routerLossObserved := false
      pollCursor := 0
      phase := .disconnected } })
  else (false, s)

end CarrierSystem

/-! ## Runs -/

inductive CarrierCall (Token : Type) where
  | connect (endpointLength : Int) (opened : ZenohResult) (routers : Except ZenohResult Nat)
  | subscribe (topic : List UInt8) (answer : Except ZenohResult Token)
  | unsubscribe (topic : List UInt8) (result : ZenohResult)
  | publish (message : Message) (result : ZenohResult)
  | pollOneEvent (capacities : PollCapacities) (storage : CallerStorage) (reading : BitVec 64)
      (answers : Fin maximumSubscriptions → Except ZenohResult Message)
  | waitForReconnect (deadlineMS : BitVec 32) (start : BitVec 64) (first : Except ZenohResult Nat)
      (rounds : List RouterRound)
  | disconnect (unsubscribed : Fin maximumSubscriptions → ZenohResult) (closed : ZenohResult)

namespace CarrierSystem

/-- The call has returned this. -/
def returning (returned : Bool × CarrierSystem Token) : CarrierSystem Token :=
  { returned.2 with reply := some (.done returned.1) }

/-- The caller has read the outcome, and the message when there is one. -/
def receiving (returned : ZenohCarrierPollOutcome × CarrierSystem Token × CallerStorage) :
    CarrierSystem Token :=
  let (outcome, s, storage) := returned
  { s with
    reply := some (.polled outcome)
    delivered := if outcome = .frame then s.delivered ++ [storage.message] else s.delivered }

/-- One call of the carrier's owner. -/
def next [DecidableEq Token] (bounds : CarrierBounds) (s : CarrierSystem Token) :
    CarrierCall Token → Option (CarrierSystem Token)
  | .connect endpointLength opened routers =>
      some (returning (s.connect endpointLength opened routers))
  | .subscribe topic answer => some (returning (s.subscribe bounds topic answer))
  | .unsubscribe topic result => some (returning (s.unsubscribe bounds topic result))
  | .publish message result => some (returning (s.publish bounds message result))
  | .pollOneEvent capacities storage reading answers =>
      some (receiving (s.pollOneEventOutcome bounds capacities storage reading answers))
  | .waitForReconnect deadlineMS start first rounds =>
      (s.waitForReconnect deadlineMS start first rounds).map returning
  | .disconnect unsubscribed closed => some (returning (s.disconnect unsubscribed closed))

end CarrierSystem
end AxolotyEmbedded.Zenoh
