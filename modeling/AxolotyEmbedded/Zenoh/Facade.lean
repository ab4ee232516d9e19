import AxolotyEmbedded.Bytes
import AxolotyEmbedded.Library.Ownership
import AxolotyEmbedded.Zenoh.Registry

/-!
The session calls of `zenoh_pico_facade.c` over the registries. The environment answers
each call of zenoh-pico with any result; a constructor creates its object when its result
is not negative, and an argument passed through `z_move` is given up whatever the callee
returns.
-/
namespace AxolotyEmbedded.Zenoh

structure FacadeBounds where
  maxEndpointBytes : Nat
  maxKeyBytes : Nat
  maxPayloadBytes : Nat

def openDeadlineMs : Nat := 5000

inductive ZenohMode where
  | client | peer
  | unknown (value : Int)
  deriving DecidableEq

structure ZenohConfig where
  mode : ZenohMode
  connectEndpoint : Option Memory
  connectEndpointLength : Nat
  multicastScoutingEnabled : Bool

/-- An owned object of zenoh-pico, under the variable that holds it. A session and a
subscriber end up in the static arrays of the facade. -/
inductive OwnedObject where
  | config | key | payload | encoding | closure
  | session (session : Fin 4)
  | subscriber (slot : Slot)
  deriving DecidableEq

/-! ## The calls of zenoh-pico -/

inductive ConfigKey where
  | mode | connect | listen | multicastScouting
  deriving DecidableEq

inductive ConfigValue where
  | client | peer
  | endpoint (text : List UInt8)
  | flag (enabled : Bool)
  deriving DecidableEq

/-- A call of zenoh-pico, with what it is given and the result the facade reads. -/
inductive ZenohCall where
  | configDefault (result : Int)
  | configInsert (key : ConfigKey) (value : ConfigValue) (result : Int)
  | open (session : Fin 4) (result : Int)
  | keyexprFromSubstr (key : List UInt8) (result : Int)
  | bytesEmpty
  | bytesCopyFromBuf (payload : List UInt8) (result : Int)
  | encodingCloneApplicationCbor (result : Int)
  | put (session : Fin 4) (result : Int)
  | closureReceiveSample (queue : Option Nat)
  | declareSubscriber (slot : Slot) (result : Int)
  | undeclareSubscriber (slot : Slot)
  | close (session : Fin 4) (result : Int)
  | drop (object : OwnedObject)
  deriving DecidableEq

/-- A constructor leaves an object only where it did not fail. -/
def createdUnlessNegative (object : OwnedObject) (result : Int) :
    List (OwnershipEvent OwnedObject) :=
  if result < 0 then [] else [.created object]

def ZenohCall.ownership : ZenohCall → List (OwnershipEvent OwnedObject)
  | .configDefault result => createdUnlessNegative .config result
  | .configInsert .. => []
  | .open session result => .givenUp .config :: createdUnlessNegative (.session session) result
  | .keyexprFromSubstr _ result => createdUnlessNegative .key result
  | .bytesEmpty => [.created .payload]
  | .bytesCopyFromBuf _ result => createdUnlessNegative .payload result
  | .encodingCloneApplicationCbor result => createdUnlessNegative .encoding result
  | .put .. => [.givenUp .payload, .givenUp .encoding]
  | .closureReceiveSample _ => [.created .closure]
  | .declareSubscriber slot result =>
      .givenUp .closure :: createdUnlessNegative (.subscriber slot) result
  | .undeclareSubscriber slot => [.givenUp (.subscriber slot)]
  | .close .. => []
  | .drop object => [.givenUp object]

/-! ## The calls of the facade -/

/-- What a call returned: its result, the registries and the handle storage after it, if
the caller gave any, and the calls it made. -/
structure FacadeOutcome (Handle : Type) where
  result : ZenohResult
  registry : Registry
  output : Option Handle
  calls : List ZenohCall

def FacadeOutcome.ownership {Handle : Type} (outcome : FacadeOutcome Handle) :
    List (OwnershipEvent OwnedObject) :=
  outcome.calls.flatMap ZenohCall.ownership

def endpointIsValid (bounds : FacadeBounds) (config : ZenohConfig) : Bool :=
  if bounds.maxEndpointBytes < config.connectEndpointLength then false
  else if config.connectEndpointLength = 0 then true
  else match config.connectEndpoint with
    | none => false
    | some endpoint => (endpoint.bytes config.connectEndpointLength).all fun byte =>
        0x20 ≤ byte && byte ≤ 0x7E && byte ≠ 0x22 && byte ≠ 0x5C

def millisecondsSince (start now : Int) : Nat :=
  (((now - start).tdiv 1000) % 4294967296).toNat

structure OpenAnswers where
  configDefault : Int
  insertMode : Int
  insertEndpoint : Int
  insertScouting : Int
  opened : Int
  startedAt : Int
  returnedAt : Int

/-- The three `zp_config_insert` calls, each made while the ones before it returned zero. -/
def insertConfig (config : ZenohConfig) (answers : OpenAnswers) : Int × List ZenohCall :=
  let peer : Bool := config.mode = .peer
  let inserted := answers.insertMode
  let calls := [.configInsert .mode (if peer then .peer else .client) inserted]
  let (inserted, calls) :=
    if inserted = 0 ∧ 0 < config.connectEndpointLength then
      let endpoint := (config.connectEndpoint.getD fun _ => 0).bytes config.connectEndpointLength
      (answers.insertEndpoint, calls ++ [.configInsert (if peer then .listen else .connect)
        (.endpoint endpoint) answers.insertEndpoint])
    else (inserted, calls)
  if inserted = 0 then
    (answers.insertScouting, calls ++ [.configInsert .multicastScouting
      (.flag config.multicastScoutingEnabled) answers.insertScouting])
  else (inserted, calls)

/-- The part of `axoloty_zenoh_open` after the reserve. -/
def openReserved (config : ZenohConfig) (answers : OpenAnswers) (registry : Registry)
    (session : Fin 4) : FacadeOutcome (Option (Fin 4)) :=
  let failed (calls : List ZenohCall) : FacadeOutcome (Option (Fin 4)) :=
    ⟨.transportError, registry.sessionRelease session, some none, calls⟩
  let calls := [.configDefault answers.configDefault]
  if answers.configDefault < 0 then failed calls
  else
    let (inserted, inserts) := insertConfig config answers
    let calls := calls ++ inserts
    if inserted < 0 then failed (calls ++ [.drop .config])
    else
      let calls := calls ++ [.open session answers.opened]
      if answers.opened < 0 then failed calls
      else if millisecondsSince answers.startedAt answers.returnedAt > openDeadlineMs then
        failed (calls ++ [.drop (.session session)])
      else ⟨.ok, registry, some (some session), calls⟩

def axolotyZenohOpen (bounds : FacadeBounds) (registry : Registry) (config : Option ZenohConfig)
    (output : Option (Option (Fin 4))) (answers : OpenAnswers) :
    FacadeOutcome (Option (Fin 4)) :=
  match output, config with
  | none, _ => ⟨.invalidArgument, registry, none, []⟩
  | some _, none => ⟨.invalidArgument, registry, some none, []⟩
  | some _, some config =>
      if config.mode ≠ .client ∧ config.mode ≠ .peer then
        ⟨.invalidArgument, registry, some none, []⟩
      else if endpointIsValid bounds config = false then
        ⟨.invalidArgument, registry, some none, []⟩
      else match registry.sessionReserve with
        | (registry, none) => ⟨.capacityExceeded, registry, some none, []⟩
        | (registry, some session) => openReserved config answers registry session

def removeSubscription (registry : Registry) (slot : Slot) : Registry × List ZenohCall :=
  ((registry.subscriptionDeactivate slot).subscriptionRelease slot, [.undeclareSubscriber slot])

/-- One turn of the loop of `axoloty_zenoh_close`. -/
def removeHeld (state : Registry × List ZenohCall) (slot : Slot) : Registry × List ZenohCall :=
  if (state.1.record slot).queue.isSome then
    let (registry, calls) := removeSubscription state.1 slot
    (registry, state.2 ++ calls)
  else state

/-- `axoloty_zenoh_close`; `closed` is what `z_close` returns. -/
def axolotyZenohClose (registry : Registry) (session : SessionPointer) (closed : Int) :
    FacadeOutcome Unit :=
  match zenohPicoSessionIndex session with
  | none => ⟨.invalidArgument, registry, none, []⟩
  | some session =>
      if (registry.sessions session).state ≠ .opened then ⟨.notOpen, registry, none, []⟩
      else
        let (registry, calls) :=
          (List.finRange 8).foldl (fun state index => removeHeld state (session, index))
            (registry, [])
        ⟨if closed = 0 then .ok else .transportError, registry.sessionRelease session, none,
          calls ++ [.close session closed, .drop (.session session)]⟩

structure PublishAnswers where
  keyexprFromSubstr : Int
  bytesCopyFromBuf : Int
  encodingClone : Int
  put : Int

def publishChecked (answers : PublishAnswers) (session : Fin 4) (key payload : List UInt8) :
    ZenohResult × List ZenohCall :=
  let calls := [.keyexprFromSubstr key answers.keyexprFromSubstr]
  if answers.keyexprFromSubstr < 0 then (.transportError, calls)
  else
    let calls := calls ++
      [if payload = [] then .bytesEmpty else .bytesCopyFromBuf payload answers.bytesCopyFromBuf]
    if payload ≠ [] ∧ answers.bytesCopyFromBuf < 0 then (.transportError, calls ++ [.drop .key])
    else
      let calls := calls ++ [.encodingCloneApplicationCbor answers.encodingClone]
      if answers.encodingClone < 0 then
        (.transportError, calls ++ [.drop .key, .drop .payload])
      else
        (if answers.put = 0 then .ok else .transportError,
          calls ++ [.put session answers.put, .drop .key])

def axolotyZenohPublish (bounds : FacadeBounds) (registry : Registry) (session : SessionPointer)
    (key : Option Memory) (keyLength : Nat) (payload : Option Memory) (payloadLength : Nat)
    (answers : PublishAnswers) : FacadeOutcome Unit :=
  match zenohPicoSessionIndex session with
  | none => ⟨.invalidArgument, registry, none, []⟩
  | some session =>
      if (registry.sessions session).state ≠ .opened then ⟨.notOpen, registry, none, []⟩
      else match key with
        | none => ⟨.invalidArgument, registry, none, []⟩
        | some key =>
            if keyLength = 0 ∨ bounds.maxKeyBytes < keyLength then
              ⟨.invalidArgument, registry, none, []⟩
            else if bounds.maxPayloadBytes < payloadLength ∨ (0 < payloadLength ∧ payload = none) then
              ⟨.invalidArgument, registry, none, []⟩
            else
              let (result, calls) := publishChecked answers session (key.bytes keyLength)
                ((payload.getD fun _ => 0).bytes payloadLength)
              ⟨result, registry, none, calls⟩

structure SubscribeAnswers where
  allocated : Bool
  keyexprFromSubstr : Int
  declared : Int

def subscribeReserved (answers : SubscribeAnswers) (registry : Registry) (handle : BitVec 32)
    (slot : Slot) (key : List UInt8) : FacadeOutcome (BitVec 32) :=
  let calls := [.keyexprFromSubstr key answers.keyexprFromSubstr]
  if answers.keyexprFromSubstr < 0 then
    ⟨.transportError, registry.subscriptionRelease slot, some 0, calls⟩
  else
    let calls := calls ++ [.closureReceiveSample (registry.record slot).queue,
      .declareSubscriber slot answers.declared, .drop .key]
    if answers.declared < 0 then
      ⟨.transportError, registry.subscriptionRelease slot, some 0, calls⟩
    else ⟨.ok, registry, some handle, calls⟩

/-- `axoloty_zenoh_subscribe`. A null handle is zero. -/
def axolotyZenohSubscribe (bounds : FacadeBounds) (registry : Registry) (session : SessionPointer)
    (key : Option Memory) (keyLength : Nat) (output : Option (BitVec 32))
    (answers : SubscribeAnswers) : FacadeOutcome (BitVec 32) :=
  match output, zenohPicoSessionIndex session with
  | none, _ => ⟨.invalidArgument, registry, none, []⟩
  | some _, none => ⟨.invalidArgument, registry, some 0, []⟩
  | some _, some session =>
      if (registry.sessions session).state ≠ .opened then ⟨.notOpen, registry, some 0, []⟩
      else match key with
        | none => ⟨.invalidArgument, registry, some 0, []⟩
        | some key =>
            if keyLength = 0 ∨ bounds.maxKeyBytes < keyLength then
              ⟨.invalidArgument, registry, some 0, []⟩
            else match registry.subscriptionReserve (some session) true answers.allocated with
              | (registry, .error result) => ⟨result, registry, some 0, []⟩
              | (registry, .ok (handle, slot)) =>
                  subscribeReserved answers registry handle slot (key.bytes keyLength)

def axolotyZenohUnsubscribe (registry : Registry) (session : SessionPointer)
    (subscription : BitVec 32) : FacadeOutcome Unit :=
  match zenohPicoSessionIndex session with
  | none => ⟨.invalidArgument, registry, none, []⟩
  | some _ => match registry.subscriptionResolve session subscription true with
    | .error result => ⟨result, registry, none, []⟩
    | .ok slot =>
        let (registry, calls) := removeSubscription registry slot
        ⟨.ok, registry, none, calls⟩

end AxolotyEmbedded.Zenoh
