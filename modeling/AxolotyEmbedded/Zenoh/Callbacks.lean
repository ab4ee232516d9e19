import AxolotyEmbedded.Zenoh.Registry

/-!
Receive callbacks against the lifecycle thread. Any number of `receive_sample`
calls, each with the queue it was declared for as its context, run between the
single steps of the one thread that reserves, deactivates and releases
subscriptions. A callback may be dispatched for any queue ever declared.
-/
namespace AxolotyEmbedded.Zenoh

/-- `ZENOH_PICO_DRAIN_SPIN_LIMIT`. -/
def drainSpinLimit : Nat := 10000

/-- The next operation of a callback: the reads of its context, the checks of
`zenoh_pico_callback_claim`, and the copy that ends with `zenoh_pico_callback_leave`. -/
inductive CallbackPhase where
  | readSessionIndex
  | readSubscriberIndex (session : Fin 4)
  | readGeneration (record : Slot)
  | checkQueue (record : Slot) (generation : BitVec 32)
  | checkGeneration (record : Slot) (generation : BitVec 32)
  | checkActive (record : Slot) (generation : BitVec 32)
  | enter (record : Slot) (generation : BitVec 32)
  | recheckGeneration (record : Slot) (generation : BitVec 32)
  | recheckActive (record : Slot)
  | withdraw (record : Slot)
  | copying (record : Slot)
  | done
  deriving DecidableEq

structure Callback where
  context : Nat
  phase : CallbackPhase
  deriving DecidableEq

/-- The next store or load of the lifecycle thread. -/
inductive LifecyclePhase where
  | idle
  | storeGeneration (record : Slot) (queue : Nat) (generation : BitVec 32)
  | storeIndexes (record : Slot) (queue : Nat)
  | resetInFlight (record : Slot) (queue : Nat)
  | storeActive (record : Slot) (queue : Nat)
  | storeQueue (record : Slot) (queue : Nat)
  | drain (record : Slot) (spin : Nat)
  | free (record : Slot)
  | clear (record : Slot)
  deriving DecidableEq

/-- `declared` counts the queues whose reservation is complete, which the backend
may pass to callbacks. `latest` is history: the queue a record last took its
generation from. -/
structure CallbackSystem where
  registry : Registry
  lifecycle : LifecyclePhase
  declared : Nat
  callbacks : List Callback
  latest : Slot → Option Nat

inductive CallbackLabel where
  | openSession
  /-- The last store of `zenoh_pico_session_release`, after its loop. -/
  | closeSession (session : Fin 4)
  | reserve (session : Fin 4) (allocated : Bool)
  | deactivate (record : Slot)
  | release (record : Slot)
  | lifecycle
  /-- Zenoh calls `receive_sample` with the queue at this address as context. -/
  | dispatch (context : Nat)
  | callback (k : Nat)
  /-- A copying callback uses its queue. -/
  | access (k : Nat)
  deriving DecidableEq

namespace CallbackSystem

def initial : CallbackSystem := ⟨.initial, .idle, 0, [], fun _ => none⟩

variable (s : CallbackSystem)

def record (slot : Slot) : Subscription := s.registry.record slot

def setRecord (slot : Slot) (value : Subscription) : CallbackSystem :=
  { s with registry := s.registry.setRecord slot value }

def setLifecycle (lifecycle : LifecyclePhase) : CallbackSystem := { s with lifecycle }

def setCallback (k : Nat) (callback : Callback) : CallbackSystem :=
  { s with callbacks := s.callbacks.set k callback }

/-- `add_u32` or `sub_u32` of the claims of a record. -/
def addInFlight (slot : Slot) (amount : BitVec 32) : CallbackSystem :=
  s.setRecord slot { s.record slot with inFlight := (s.record slot).inFlight + amount }

def moveCallback (k : Nat) (callback : Callback) (phase : CallbackPhase) : CallbackSystem :=
  s.setCallback k { callback with phase }

/-- One operation of callback `k`. -/
def advance (k : Nat) (callback : Callback) : Option CallbackSystem :=
  let move := s.moveCallback k callback
  match callback.phase with
  | .readSessionIndex => (s.registry.heap[callback.context]?).map fun queue =>
      if within : queue.sessionIndex.toNat < 4 then
        move (.readSubscriberIndex ⟨queue.sessionIndex.toNat, within⟩)
      else move .done
  | .readSubscriberIndex session => (s.registry.heap[callback.context]?).bind fun queue =>
      if within : queue.subscriberIndex.toNat < 8 then
        some (move (.readGeneration (session, ⟨queue.subscriberIndex.toNat, within⟩)))
      else none
  | .readGeneration record => (s.registry.heap[callback.context]?).map fun queue =>
      move (.checkQueue record queue.generation)
  | .checkQueue record generation =>
      if (s.record record).queue.isSome then some (move (.checkGeneration record generation))
      else some (move .done)
  | .checkGeneration record generation =>
      if (s.record record).generation = generation then some (move (.checkActive record generation))
      else some (move .done)
  | .checkActive record generation =>
      if (s.record record).active = 0 then some (move .done)
      else some (move (.enter record generation))
  | .enter record generation =>
      some ((move (.recheckGeneration record generation)).addInFlight record 1)
  | .recheckGeneration record generation =>
      if (s.record record).generation = generation then some (move (.recheckActive record))
      else some (move (.withdraw record))
  | .recheckActive record =>
      if (s.record record).active = 0 then some (move (.withdraw record))
      else some (move (.copying record))
  | .withdraw record => some ((move .done).addInFlight record (-1))
  | .copying record => some ((move .done).addInFlight record (-1))
  | .done => none

/-- One operation of the lifecycle thread inside a reserve or a release. -/
def stepLifecycle : Option CallbackSystem :=
  match s.lifecycle with
  | .idle => none
  | .storeGeneration slot queue generation => some
      { s.setRecord slot { s.record slot with generation } with
        lifecycle := .storeIndexes slot queue
        latest := Function.update s.latest slot (some queue) }
  | .storeIndexes slot queue => some
      ((s.setRecord slot { s.record slot with
        sessionIndex := (s.registry.sessions slot.1).sessionIndex
        subscriberIndex := BitVec.ofNat 32 slot.2 }).setLifecycle (.resetInFlight slot queue))
  | .resetInFlight slot queue => some
      ((s.setRecord slot { s.record slot with inFlight := 0 }).setLifecycle
        (.storeActive slot queue))
  | .storeActive slot queue => some
      ((s.setRecord slot { s.record slot with active := 1 }).setLifecycle (.storeQueue slot queue))
  | .storeQueue slot queue => some
      { s.setRecord slot { s.record slot with queue := some queue } with
        lifecycle := .idle
        declared := queue + 1 }
  | .drain slot spin =>
      if (s.record slot).inFlight = 0 then some (s.setLifecycle (.free slot))
      else if spin + 1 < drainSpinLimit then some (s.setLifecycle (.drain slot (spin + 1)))
      else some (s.setLifecycle (.free slot))
  | .free slot => some { s with
      registry := s.registry.freeQueue slot
      lifecycle := .clear slot }
  | .clear slot => some
      ((s.setRecord slot { s.record slot with queue := none }).setLifecycle .idle)

/-- The calls the lifecycle thread may start while it is in none. -/
def startLifecycle : CallbackLabel → Option CallbackSystem
  | .openSession => some { s with registry := s.registry.sessionReserve.1 }
  | .closeSession session =>
      if ∀ index, (s.record (session, index)).queue = none then
        some { s with registry := s.registry.setState session .closed }
      else none
  | .reserve session allocated =>
      if (s.registry.sessions session).state = .opened ∧ allocated = true then
        match s.registry.freeSlot session with
        | none => some s
        | some index =>
            let slot := (session, index)
            let generation := nextGeneration (s.record slot).generation
            let context : QueueContext :=
              ⟨(s.registry.sessions session).sessionIndex, BitVec.ofNat 32 index, generation⟩
            some { s with
              registry := { s.registry with heap := s.registry.heap ++ [context] }
              lifecycle := .storeGeneration slot s.registry.heap.length generation }
      else some s
  | .deactivate slot => some { s with registry := s.registry.subscriptionDeactivate slot }
  | .release slot => some
      { s with registry := s.registry.subscriptionDeactivate slot, lifecycle := .drain slot 0 }
  | _ => none

def next : CallbackLabel → Option CallbackSystem
  | .lifecycle => s.stepLifecycle
  | .dispatch context =>
      if context < s.declared then
        some { s with callbacks := s.callbacks ++ [⟨context, .readSessionIndex⟩] }
      else none
  | .callback k => (s.callbacks[k]?).bind fun callback => s.advance k callback
  | .access k =>
      match (s.callbacks[k]?).map Callback.phase with
      | some (.copying _) => some s
      | _ => none
  | label => if s.lifecycle = .idle then s.startLifecycle label else none

end CallbackSystem

/-! ## What a step does with a queue -/

/-- The next operation of the callback reads or writes the queue it has as context. -/
def CallbackPhase.touches : CallbackPhase → Bool
  | .readSessionIndex | .readSubscriberIndex _ | .readGeneration _ | .copying _ => true
  | _ => false

/-- Between the `add_u32` of a claim and its `sub_u32`. -/
def CallbackPhase.counted (slot : Slot) : CallbackPhase → Bool
  | .recheckGeneration record _ | .recheckActive record | .withdraw record | .copying record =>
      record == slot
  | _ => false

/-- The record and the generation that a claim still has to compare. -/
def CallbackPhase.carried : CallbackPhase → Option (Slot × BitVec 32)
  | .checkQueue record generation | .checkGeneration record generation
  | .checkActive record generation | .enter record generation
  | .recheckGeneration record generation => some (record, generation)
  | _ => none

namespace CallbackSystem

/-- How many claims of a record are counted. -/
def claims (s : CallbackSystem) (slot : Slot) : Nat :=
  s.callbacks.countP fun callback => callback.phase.counted slot

end CallbackSystem

end AxolotyEmbedded.Zenoh
