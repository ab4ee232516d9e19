import AxolotyEmbedded.Zenoh.Queue

/-!
The fixed session and subscriber registries of `zenoh_pico_queue.c`, as one
thread at a time uses them. A queue is named by its address, and the heap keeps
the words of it that its callbacks read to find their record.
-/
namespace AxolotyEmbedded.Zenoh

/-- The words `zenoh_pico_subscription_reserve` stores in a new queue. -/
structure QueueContext where
  sessionIndex : BitVec 32
  subscriberIndex : BitVec 32
  generation : BitVec 32

/-- `struct axoloty_zenoh_subscription`. -/
structure Subscription where
  queue : Option Nat
  generation : BitVec 32
  active : BitVec 32
  inFlight : BitVec 32
  sessionIndex : BitVec 32
  subscriberIndex : BitVec 32

inductive SessionState where
  | closed | opened
  deriving DecidableEq

/-- `struct axoloty_zenoh_session`, with `AXOLOTY_ZENOH_MAX_SUBSCRIBERS` slots. -/
structure Session where
  state : SessionState
  sessionIndex : BitVec 32
  subscribers : Fin 8 → Subscription

/-- One of the subscriber slots of one of the `AXOLOTY_ZENOH_MAX_SESSIONS` sessions. -/
abbrev Slot := Fin 4 × Fin 8

/-- The static slots, and the heap as far as `calloc` and `free` of queues use it:
the address of a queue is its position among all queues ever allocated. -/
structure Registry where
  sessions : Fin 4 → Session
  heap : List QueueContext
  freed : Nat → Bool

/-- A session handle a caller may present. -/
inductive SessionPointer where
  | null
  | foreign
  | slot (session : Fin 4)
  deriving DecidableEq

/-! ## Handles, with a `uintptr_t` of 32 bits -/

def encodeHandle (sessionIndex subscriberIndex generation : BitVec 32) : BitVec 32 :=
  generation <<< 5 ||| sessionIndex <<< 3 ||| subscriberIndex

def handleGeneration (raw : BitVec 32) : BitVec 32 := raw >>> 5

def handleSession (raw : BitVec 32) : BitVec 32 := raw >>> 3 &&& 0x03#32

def handleSubscriber (raw : BitVec 32) : BitVec 32 := raw &&& 0x07#32

/-- The generation of the next reservation of a record. Zero is skipped. -/
def nextGeneration (generation : BitVec 32) : BitVec 32 :=
  if generation + 1 = 0 then 1 else generation + 1

def zenohPicoSessionIndex : SessionPointer → Option (Fin 4)
  | .slot session => some session
  | _ => none

namespace Registry

def initial : Registry where
  sessions := fun _ => ⟨.closed, 0, fun _ => ⟨none, 0, 0, 0, 0, 0⟩⟩
  heap := []
  freed := fun _ => false

variable (registry : Registry)

def record (slot : Slot) : Subscription := (registry.sessions slot.1).subscribers slot.2

def setSession (session : Fin 4) (value : Session) : Registry :=
  { registry with sessions := Function.update registry.sessions session value }

def setRecord (slot : Slot) (value : Subscription) : Registry :=
  registry.setSession slot.1 { registry.sessions slot.1 with
    subscribers := Function.update (registry.sessions slot.1).subscribers slot.2 value }

def setState (session : Fin 4) (state : SessionState) : Registry :=
  registry.setSession session { registry.sessions session with state }

/-! ## Sessions and subscriptions -/

/-- `zenoh_pico_session_reserve`. -/
def sessionReserve : Registry × Option (Fin 4) :=
  match (List.finRange 4).find? fun session => (registry.sessions session).state ≠ .opened with
  | some session =>
      (registry.setSession session { registry.sessions session with
        state := .opened, sessionIndex := BitVec.ofNat 32 session }, some session)
  | none => (registry, none)

/-- The first slot of a session without a queue. -/
def freeSlot (session : Fin 4) : Option (Fin 8) :=
  (List.finRange 8).find? fun index => (registry.record (session, index)).queue.isNone

/-- The stores of a successful `zenoh_pico_subscription_reserve`. -/
def reserveSlot (slot : Slot) : Registry :=
  let sessionIndex := (registry.sessions slot.1).sessionIndex
  let subscriberIndex := BitVec.ofNat 32 slot.2
  let generation := nextGeneration (registry.record slot).generation
  let heap := registry.heap ++ [⟨sessionIndex, subscriberIndex, generation⟩]
  setRecord { registry with heap } slot
    ⟨some registry.heap.length, generation, 1, 0, sessionIndex, subscriberIndex⟩

/-- `zenoh_pico_subscription_reserve`. `outputs` says that both result pointers are
given and `allocated` that `calloc` finds memory. -/
def subscriptionReserve (session : Option (Fin 4)) (outputs allocated : Bool) :
    Registry × Except ZenohResult (BitVec 32 × Slot) :=
  match session, outputs with
  | some session, true =>
      if (registry.sessions session).state ≠ .opened then (registry, .error .notOpen)
      else match registry.freeSlot session with
        | none => (registry, .error .capacityExceeded)
        | some index =>
            if allocated then
              (registry.reserveSlot (session, index), .ok
                (encodeHandle (registry.sessions session).sessionIndex (BitVec.ofNat 32 index)
                  (nextGeneration (registry.record (session, index)).generation), (session, index)))
            else (registry, .error .transportError)
  | _, _ => (registry, .error .invalidArgument)

/-- `zenoh_pico_subscription_deactivate`. -/
def subscriptionDeactivate (slot : Slot) : Registry :=
  registry.setRecord slot { registry.record slot with active := 0 }

/-- `free` of the queue of a record; freeing no queue does nothing. -/
def freeQueue (slot : Slot) : Registry :=
  match (registry.record slot).queue with
  | some address => { registry with freed := Function.update registry.freed address true }
  | none => registry

/-- `zenoh_pico_subscription_release`. With no callback about, its drain only reads. -/
def subscriptionRelease (slot : Slot) : Registry :=
  let registry := (registry.subscriptionDeactivate slot).freeQueue slot
  registry.setRecord slot { registry.record slot with queue := none }

/-- One turn of the loop of `zenoh_pico_session_release`. -/
def releaseHeld (slot : Slot) : Registry :=
  if (registry.record slot).queue.isSome then registry.subscriptionRelease slot else registry

/-- `zenoh_pico_session_release` of a session slot. -/
def sessionRelease (session : Fin 4) : Registry :=
  ((List.finRange 8).foldl (fun registry index => registry.releaseHeld (session, index))
    registry).setState session .closed

/-- `zenoh_pico_subscription_resolve`. `output` says that the result pointer is given. -/
def subscriptionResolve (session : SessionPointer) (subscription : BitVec 32) (output : Bool) :
    Except ZenohResult Slot :=
  if session = .null ∨ subscription = 0 ∨ output = false then .error .invalidArgument
  else match zenohPicoSessionIndex session with
    | none => .error .invalidArgument
    | some session =>
        if (registry.sessions session).state ≠ .opened then .error .notOpen
        else if handleGeneration subscription = 0 ∨
            BitVec.ofNat 32 session ≠ handleSession subscription then .error .invalidArgument
        else if within : (handleSubscriber subscription).toNat < 8 then
          let slot : Slot := (session, ⟨(handleSubscriber subscription).toNat, within⟩)
          if (registry.record slot).queue.isNone ∨ (registry.record slot).active = 0 ∨
              (registry.record slot).generation ≠ handleGeneration subscription then
            .error .invalidArgument
          else .ok slot
        else .error .invalidArgument

/-! ## What the setters leave alone -/

@[simp] theorem record_setRecord_self (slot : Slot) (value : Subscription) :
    (registry.setRecord slot value).record slot = value := by
  simp [record, setRecord, setSession]

theorem record_setRecord_of_ne {slot other : Slot} (value : Subscription) (ne : other ≠ slot) :
    (registry.setRecord slot value).record other = registry.record other := by
  obtain ⟨session, index⟩ := slot
  obtain ⟨session', index'⟩ := other
  by_cases same : session' = session
  · subst same
    have ne' : index' ≠ index := fun equal => ne (by rw [equal])
    simp [record, setRecord, setSession, Function.update_of_ne ne']
  · simp [record, setRecord, setSession, Function.update_of_ne same]

@[simp] theorem state_setRecord (slot : Slot) (value : Subscription) (session : Fin 4) :
    ((registry.setRecord slot value).sessions session).state =
      (registry.sessions session).state := by
  by_cases same : session = slot.1
  · subst same
    simp [setRecord, setSession]
  · simp [setRecord, setSession, Function.update_of_ne same]

@[simp] theorem sessionIndex_setRecord (slot : Slot) (value : Subscription) (session : Fin 4) :
    ((registry.setRecord slot value).sessions session).sessionIndex =
      (registry.sessions session).sessionIndex := by
  by_cases same : session = slot.1
  · subst same
    simp [setRecord, setSession]
  · simp [setRecord, setSession, Function.update_of_ne same]

theorem record_setSession {session : Fin 4} {value : Session}
    (subscribers : value.subscribers = (registry.sessions session).subscribers) (slot : Slot) :
    (registry.setSession session value).record slot = registry.record slot := by
  by_cases same : slot.1 = session
  · subst same
    simp [record, setSession, subscribers]
  · simp [record, setSession, Function.update_of_ne same]

@[simp] theorem record_setState (session : Fin 4) (state : SessionState) (slot : Slot) :
    (registry.setState session state).record slot = registry.record slot :=
  record_setSession _ (by rfl) slot

@[simp] theorem freeQueue_sessions (slot : Slot) :
    (registry.freeQueue slot).sessions = registry.sessions := by
  unfold freeQueue
  split <;> rfl

@[simp] theorem record_freeQueue (slot other : Slot) :
    (registry.freeQueue slot).record other = registry.record other := by
  simp only [record, freeQueue_sessions]

/-! ## What the operations do to a record -/

@[simp] theorem record_sessionReserve (slot : Slot) :
    registry.sessionReserve.1.record slot = registry.record slot := by
  unfold sessionReserve
  split
  · exact record_setSession _ (by rfl) slot
  · rfl

/-- A session reserve opens at most one session and leaves the open ones open. -/
theorem state_sessionReserve {session : Fin 4}
    (opened : (registry.sessions session).state = .opened) :
    (registry.sessionReserve.1.sessions session).state = .opened := by
  unfold sessionReserve
  split
  · rename_i other found
    by_cases same : session = other
    · simp [setSession, same]
    · simpa [setSession, Function.update_of_ne same] using opened
  · exact opened

theorem sessionIndex_sessionReserve
    (indexed : ∀ session, (registry.sessions session).state = .opened →
      (registry.sessions session).sessionIndex = BitVec.ofNat 32 session)
    {session : Fin 4} (opened : (registry.sessionReserve.1.sessions session).state = .opened) :
    (registry.sessionReserve.1.sessions session).sessionIndex = BitVec.ofNat 32 session := by
  unfold sessionReserve at opened ⊢
  split
  · rename_i other found
    simp only [found] at opened
    by_cases same : session = other
    · simp [setSession, same]
    · simp only [setSession, Function.update_of_ne same] at opened ⊢
      exact indexed session opened
  · rename_i found
    simp only [found] at opened
    exact indexed session opened

theorem record_subscriptionRelease_self (slot : Slot) :
    (registry.subscriptionRelease slot).record slot =
      { registry.record slot with active := 0, queue := none } := by
  simp [subscriptionRelease, subscriptionDeactivate]

theorem record_subscriptionRelease_of_ne {slot other : Slot} (ne : other ≠ slot) :
    (registry.subscriptionRelease slot).record other = registry.record other := by
  simp [subscriptionRelease, subscriptionDeactivate, record_setRecord_of_ne _ _ ne]

@[simp] theorem state_subscriptionRelease (slot : Slot) (session : Fin 4) :
    ((registry.subscriptionRelease slot).sessions session).state =
      (registry.sessions session).state := by
  simp [subscriptionRelease, subscriptionDeactivate]

@[simp] theorem sessionIndex_subscriptionRelease (slot : Slot) (session : Fin 4) :
    ((registry.subscriptionRelease slot).sessions session).sessionIndex =
      (registry.sessions session).sessionIndex := by
  simp [subscriptionRelease, subscriptionDeactivate]

theorem record_reserveSlot_self (slot : Slot) :
    (registry.reserveSlot slot).record slot =
      ⟨some registry.heap.length, nextGeneration (registry.record slot).generation, 1, 0,
        (registry.sessions slot.1).sessionIndex, BitVec.ofNat 32 slot.2⟩ :=
  record_setRecord_self ..

theorem record_reserveSlot_of_ne {slot other : Slot} (ne : other ≠ slot) :
    (registry.reserveSlot slot).record other = registry.record other :=
  record_setRecord_of_ne _ _ ne

@[simp] theorem state_reserveSlot (slot : Slot) (session : Fin 4) :
    ((registry.reserveSlot slot).sessions session).state = (registry.sessions session).state :=
  state_setRecord ..

/-- A reserve in an open session with a free slot and memory takes that slot. -/
theorem subscriptionReserve_of_free {session : Fin 4} {index : Fin 8}
    (opened : (registry.sessions session).state = .opened)
    (found : registry.freeSlot session = some index) :
    registry.subscriptionReserve (some session) true true =
      (registry.reserveSlot (session, index), .ok
        (encodeHandle (registry.sessions session).sessionIndex (BitVec.ofNat 32 index)
          (nextGeneration (registry.record (session, index)).generation), (session, index))) := by
  simp [subscriptionReserve, opened, found]

/-- A reserve takes a free slot of an open session, or fails and changes nothing. -/
theorem subscriptionReserve_cases (session : Option (Fin 4)) (outputs allocated : Bool) :
    (∃ result, registry.subscriptionReserve session outputs allocated = (registry, .error result)) ∨
      ∃ known index, session = some known ∧ outputs = true ∧ allocated = true ∧
        (registry.sessions known).state = .opened ∧ registry.freeSlot known = some index := by
  unfold subscriptionReserve
  split
  · rename_i known
    split
    · exact .inl ⟨_, rfl⟩
    · rename_i opened
      split
      · exact .inl ⟨_, rfl⟩
      · rename_i index found
        cases allocated with
        | true => exact .inr ⟨known, index, rfl, rfl, rfl, not_not.mp opened, found⟩
        | false => exact .inl ⟨_, rfl⟩
  · exact .inl ⟨_, rfl⟩

theorem queue_of_freeSlot {session : Fin 4} {index : Fin 8}
    (found : registry.freeSlot session = some index) :
    (registry.record (session, index)).queue = none := by
  simpa using List.find?_some found

theorem freeSlot_of_all_free {session : Fin 4}
    (free : ∀ index, (registry.record (session, index)).queue = none) :
    registry.freeSlot session = some 0 := by
  simp [freeSlot, List.finRange_succ, free]

/-- What releasing some slots of a session leaves: the generations, the other
sessions, and every slot that was free already. -/
structure ReleasedIn (session : Fin 4) (before after : Registry) : Prop where
  generation : ∀ slot, (after.record slot).generation = (before.record slot).generation
  others : ∀ slot : Slot, slot.1 ≠ session → after.record slot = before.record slot
  stillFree : ∀ slot, (before.record slot).queue = none → (after.record slot).queue = none
  state : ∀ other, (after.sessions other).state = (before.sessions other).state
  sessionIndex : ∀ other, (after.sessions other).sessionIndex =
    (before.sessions other).sessionIndex

theorem releasedIn_releaseHeld (slot : Slot) :
    ReleasedIn slot.1 registry (registry.releaseHeld slot) := by
  unfold releaseHeld
  split
  · refine ⟨fun other => ?_, fun other ne => ?_, fun other free => ?_, by simp, by simp⟩
    · by_cases same : other = slot
      · rw [same, record_subscriptionRelease_self]
      · rw [record_subscriptionRelease_of_ne _ same]
    · exact record_subscriptionRelease_of_ne _ fun same => ne (by rw [same])
    · by_cases same : other = slot
      · rw [same, record_subscriptionRelease_self]
      · rwa [record_subscriptionRelease_of_ne _ same]
  · exact ⟨fun _ => rfl, fun _ _ => rfl, fun _ free => free, fun _ => rfl, fun _ => rfl⟩

theorem queue_releaseHeld (slot : Slot) :
    ((registry.releaseHeld slot).record slot).queue = none := by
  unfold releaseHeld
  split
  · rw [record_subscriptionRelease_self]
  · rename_i held
    exact Option.not_isSome_iff_eq_none.mp held

theorem ReleasedIn.trans {session : Fin 4} {first second third : Registry}
    (before : ReleasedIn session first second) (after : ReleasedIn session second third) :
    ReleasedIn session first third where
  generation slot := (after.generation slot).trans (before.generation slot)
  others slot ne := (after.others slot ne).trans (before.others slot ne)
  stillFree slot free := after.stillFree slot (before.stillFree slot free)
  state other := (after.state other).trans (before.state other)
  sessionIndex other := (after.sessionIndex other).trans (before.sessionIndex other)

/-- The loop over the slots of a session frees each of them. -/
theorem releasedIn_foldl (session : Fin 4) (indexes : List (Fin 8)) :
    ∀ registry : Registry,
      let after := indexes.foldl (fun registry index => registry.releaseHeld (session, index)) registry
      ReleasedIn session registry after ∧
        ∀ index ∈ indexes, (after.record (session, index)).queue = none := by
  induction indexes with
  | nil =>
      exact fun registry => ⟨⟨fun _ => rfl, fun _ _ => rfl, fun _ free => free, fun _ => rfl,
        fun _ => rfl⟩, by simp⟩
  | cons head rest ih =>
      intro registry
      obtain ⟨released, freed⟩ := ih (registry.releaseHeld (session, head))
      refine ⟨(registry.releasedIn_releaseHeld (session, head)).trans released, ?_⟩
      intro index mem
      cases mem with
      | head => exact released.stillFree _ (registry.queue_releaseHeld _)
      | tail _ mem => exact freed index mem

end Registry

end AxolotyEmbedded.Zenoh
