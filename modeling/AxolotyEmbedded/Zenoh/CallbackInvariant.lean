import AxolotyEmbedded.Zenoh.Callbacks
import AxolotyEmbedded.Library.Wrapping
import Mathlib.Tactic.Common

/-!
The invariant of the callback system. A declared queue that is not freed is the
one its record last took a generation from and is linked there; a record is
active only while such a queue exists; and a claim that has passed both second
checks holds it until the drain has seen the claim leave.
-/
namespace AxolotyEmbedded.Zenoh
open Wrapping

variable {s t : CallbackSystem}

/-- The record and the generation a queue was reserved with. -/
def CallbackSystem.IsContext (s : CallbackSystem) (queue : Nat) (slot : Slot)
    (generation : BitVec 32) : Prop :=
  s.registry.heap[queue]? = some ⟨BitVec.ofNat 32 slot.1, BitVec.ofNat 32 slot.2, generation⟩

/-! ## Where the lifecycle thread is -/

/-- The record and the queue of the reservation under way. -/
def LifecyclePhase.reserving : LifecyclePhase → Option (Slot × Nat)
  | .storeGeneration slot queue _ | .storeIndexes slot queue | .resetInFlight slot queue
  | .storeActive slot queue | .storeQueue slot queue => some (slot, queue)
  | _ => none

/-- The record and the queue of a reservation that has stored its generation. -/
def LifecyclePhase.stored : LifecyclePhase → Option (Slot × Nat)
  | .storeIndexes slot queue | .resetInFlight slot queue | .storeActive slot queue
  | .storeQueue slot queue => some (slot, queue)
  | _ => none

/-- A reservation that has stored its generation and not yet reset the claims. -/
def LifecyclePhase.refilling (slot : Slot) : LifecyclePhase → Bool
  | .storeIndexes record _ | .resetInFlight record _ => record == slot
  | _ => false

/-- The drain of the record is over and its queue is not yet unlinked. -/
def LifecyclePhase.freeing (slot : Slot) : LifecyclePhase → Bool
  | .free record | .clear record => record == slot
  | _ => false

/-- The lifecycle thread relies on the record being inactive. -/
def LifecyclePhase.quieting (slot : Slot) : LifecyclePhase → Bool
  | .storeGeneration record _ _ | .storeIndexes record _ | .resetInFlight record _
  | .drain record _ | .free record | .clear record => record == slot
  | _ => false

/-! ## The invariant -/

/-- What the registry, the heap and the lifecycle thread keep among themselves. -/
structure CallbackSystem.Owned (s : CallbackSystem) : Prop where
  indexed : ∀ session, (s.registry.sessions session).state = .opened →
    (s.registry.sessions session).sessionIndex = BitVec.ofNat 32 session
  contexts : ∀ queue < s.registry.heap.length, ∃ slot generation, s.IsContext queue slot generation
  idle : s.lifecycle.reserving = none → s.registry.heap.length = s.declared
  reserving : ∀ slot queue, s.lifecycle.reserving = some (slot, queue) →
    queue = s.declared ∧ s.registry.heap.length = s.declared + 1 ∧ (s.record slot).queue = none
  generation : ∀ slot queue generation, s.lifecycle = .storeGeneration slot queue generation →
    s.IsContext queue slot generation
  stored : ∀ slot queue, s.lifecycle.stored = some (slot, queue) → s.latest slot = some queue
  freed : ∀ queue, s.registry.freed queue = true → queue < s.declared
  latest : ∀ slot queue, s.latest slot = some queue →
    s.IsContext queue slot (s.record slot).generation
  owner : ∀ queue < s.declared, ∀ slot generation, s.IsContext queue slot generation →
    s.registry.freed queue = false → s.latest slot = some queue
  held : ∀ slot queue, (s.record slot).queue = some queue →
    s.latest slot = some queue ∧ queue < s.declared
  unfreed : ∀ slot queue, (s.record slot).queue = some queue →
    s.registry.freed queue = false ∨ s.lifecycle = .clear slot
  linked : ∀ slot, ∀ queue < s.declared, s.latest slot = some queue →
    s.registry.freed queue = false → (s.record slot).queue = some queue
  active : ∀ slot, (s.record slot).active ≠ 0 →
    ∃ queue, s.latest slot = some queue ∧ s.registry.freed queue = false
  quiet : ∀ slot, s.lifecycle.quieting slot = true → (s.record slot).active = 0
  cleared : ∀ slot, s.lifecycle = .clear slot → ∀ queue, (s.record slot).queue = some queue →
    s.registry.freed queue = true

/-- The assertion of a callback at each of its phases. -/
def Callback.Ok (s : CallbackSystem) (callback : Callback) : Prop :=
  match callback.phase with
  | .readSessionIndex => s.registry.freed callback.context = false
  | .readSubscriberIndex session => s.registry.freed callback.context = false ∧
      ∃ index generation, s.IsContext callback.context (session, index) generation
  | .readGeneration record => s.registry.freed callback.context = false ∧
      ∃ generation, s.IsContext callback.context record generation
  | .checkQueue record generation | .checkGeneration record generation
  | .checkActive record generation | .enter record generation
  | .recheckGeneration record generation =>
      (s.record record).generation = generation → s.latest record = some callback.context
  | .recheckActive record =>
      s.latest record = some callback.context ∨
        ((s.record record).active = 0 ∧ s.lifecycle.refilling record = true)
  | .copying record =>
      s.registry.freed callback.context = false ∧ s.latest record = some callback.context
  | .withdraw _ | .done => True

structure CallbackSystem.Inv (s : CallbackSystem) : Prop where
  owned : s.Owned
  dispatched : ∀ callback ∈ s.callbacks, callback.context < s.declared
  callbacks : ∀ callback ∈ s.callbacks, callback.Ok s
  drained : ∀ slot, s.lifecycle.freeing slot = true →
    ∀ callback ∈ s.callbacks, callback.phase ≠ .copying slot
  inFlight : ∀ slot, (s.record slot).inFlight = BitVec.ofNat 32 (s.claims slot) ∧
    s.claims slot < 2 ^ 32

namespace CallbackSystem

/-! ## Contexts and records -/

/-- A queue is the context of one record and one generation. -/
theorem IsContext.unique {queue : Nat} {slot slot' : Slot} {generation generation' : BitVec 32}
    (first : s.IsContext queue slot generation) (second : s.IsContext queue slot' generation') :
    slot = slot' ∧ generation = generation' := by
  have same := Option.some.inj (first.symm.trans second)
  simp only [QueueContext.mk.injEq] at same
  obtain ⟨session, index, generation⟩ := same
  have hsession := congrArg BitVec.toNat session
  have hindex := congrArg BitVec.toNat index
  simp only [BitVec.toNat_ofNat] at hsession hindex
  exact ⟨Prod.ext (Fin.ext (by omega)) (Fin.ext (by omega)), generation⟩

theorem IsContext.lt {queue : Nat} {slot : Slot} {generation : BitVec 32}
    (context : s.IsContext queue slot generation) : queue < s.registry.heap.length :=
  (List.getElem?_eq_some_iff.mp context).1

@[simp] theorem record_setRecord_self (slot : Slot) (value : Subscription) :
    (s.setRecord slot value).record slot = value :=
  Registry.record_setRecord_self ..

theorem record_setRecord_of_ne {slot other : Slot} (value : Subscription) (ne : other ≠ slot) :
    (s.setRecord slot value).record other = s.record other :=
  Registry.record_setRecord_of_ne _ _ ne

theorem isContext_congr (heap : t.registry.heap = s.registry.heap) {queue : Nat} {slot : Slot}
    {generation : BitVec 32} :
    t.IsContext queue slot generation ↔ s.IsContext queue slot generation := by
  rw [IsContext, IsContext, heap]

theorem Owned.initial : initial.Owned where
  indexed := fun _ opened => by cases opened
  contexts := fun _ below => absurd below (Nat.not_lt_zero _)
  idle := fun _ => rfl
  reserving := fun _ _ reserving => by cases reserving
  generation := fun _ _ _ phase => by cases phase
  stored := fun _ _ stored => by cases stored
  freed := fun _ freed => by cases freed
  latest := fun _ _ latest => by cases latest
  owner := fun _ below => absurd below (Nat.not_lt_zero _)
  held := fun _ _ held => by cases held
  unfreed := fun _ _ held => by cases held
  linked := fun _ _ below => absurd below (Nat.not_lt_zero _)
  active := fun _ active => absurd rfl active
  quiet := fun _ quiet => by cases quiet
  cleared := fun _ phase => by cases phase

theorem Inv.initial : initial.Inv where
  owned := .initial
  dispatched := fun _ mem => by cases mem
  callbacks := fun _ mem => by cases mem
  drained := fun _ freeing => by cases freeing
  inFlight := fun _ => ⟨rfl, show 0 < 2 ^ 32 by decide⟩

end CallbackSystem

/-! ## Schedules without hazards -/

/-- The callback has not yet read the whole of its context. -/
def CallbackPhase.reading : CallbackPhase → Bool
  | .readSessionIndex | .readSubscriberIndex _ | .readGeneration _ => true
  | _ => false

/-- The steps the registry relies on being kept from:
a callback is not dispatched for a freed queue, and none is still reading its
context when its queue is freed; fewer than `2 ^ 32` claims of a record are
counted at once; a generation is not stored while an unfinished claim of an
earlier reservation carries it; the claims of a record are not reset while one is
counted; and a drain that ends on its last permitted load ends on zero. -/
def CallbackSystem.Orderly (s : CallbackSystem) : CallbackLabel → Prop
  | .dispatch context => s.registry.freed context = false
  | .callback k =>
      match (s.callbacks[k]?).map Callback.phase with
      | some (.enter record _) => s.claims record + 1 < 2 ^ 32
      | _ => True
  | .lifecycle =>
      match s.lifecycle with
      | .storeGeneration slot _ generation =>
          ∀ callback ∈ s.callbacks, callback.phase.carried ≠ some (slot, generation)
      | .resetInFlight slot _ => s.claims slot = 0
      | .drain slot spin => spin + 1 < drainSpinLimit ∨ (s.record slot).inFlight = 0
      | .free slot => ∀ callback ∈ s.callbacks, callback.phase.reading = true →
          (s.record slot).queue ≠ some callback.context
      | _ => True
  | _ => True

instance (s : CallbackSystem) (label : CallbackLabel) : Decidable (s.Orderly label) := by
  unfold CallbackSystem.Orderly
  split
  · infer_instance
  · split <;> infer_instance
  · split <;> infer_instance
  · infer_instance

end AxolotyEmbedded.Zenoh
