import Mathlib.Data.BitVec
import AxolotyEmbedded.Bytes
import AxolotyEmbedded.Library.Wrapping

/-!
The bounded receive queue of one subscription: `zenoh_pico_queue_admit` and
`zenoh_pico_queue_note_oversized` run by any number of producers, and
`zenoh_pico_queue_poll` run by one consumer. Each atomic operation and each
byte of a `memcpy` is one step, and any interleaving of the steps is a run.
-/
namespace AxolotyEmbedded.Zenoh

instance sessionsNonempty : NeZero 4 := ⟨by decide⟩

instance slotsNonempty : NeZero 8 := ⟨by decide⟩

/-- `axoloty_zenoh_result_t`. -/
inductive ZenohResult where
  | ok | invalidArgument | notOpen | capacityExceeded | queueEmpty | queueFull
  | frameTooLarge | transportError
  deriving DecidableEq, Repr

/-- The constants a build fixes. `ZENOH_PICO_QUEUE_CAPACITY` is a power of two
that a `uint32_t` can hold. -/
structure QueueConfig extends CarrierBounds where
  capacityLog2 : Nat
  capacityFits : capacityLog2 < 32

/-- `ZENOH_PICO_QUEUE_CAPACITY`. -/
def QueueConfig.capacity (config : QueueConfig) : Nat := 2 ^ config.capacityLog2

/-- The constants of the smoke application. -/
def smokeConfig : QueueConfig where
  toCarrierBounds := smokeBounds
  capacityLog2 := 2
  capacityFits := by decide

structure ZenohPicoFrame where
  keyLength : Nat
  payloadLength : Nat
  published : BitVec 32
  key : Memory
  payload : Memory

/-- The ring and its counters. `frames` is read at slots below the capacity only. -/
structure ZenohPicoQueue where
  readIndex : BitVec 32
  writeIndex : BitVec 32
  dropped : BitVec 32
  oversized : BitVec 32
  reportFull : BitVec 32
  reportOversized : BitVec 32
  frames : Nat → ZenohPicoFrame

/-- What `calloc` returns. -/
def ZenohPicoQueue.zeroed : ZenohPicoQueue where
  readIndex := 0
  writeIndex := 0
  dropped := 0
  oversized := 0
  reportFull := 0
  reportOversized := 0
  frames := fun _ => ⟨0, 0, 0, fun _ => 0, fun _ => 0⟩

/-- `&queue->frames[index % ZENOH_PICO_QUEUE_CAPACITY]`. -/
def QueueConfig.slot (config : QueueConfig) (index : BitVec 32) : Nat :=
  index.toNat % config.capacity

/-! ## Producers -/

structure AdmitArguments where
  key : Option Memory
  keyLength : Nat
  payload : Option Memory
  payloadLength : Nat

/-- The bounds check of `zenoh_pico_queue_admit`, passed. -/
def AdmitArguments.fits (arguments : AdmitArguments) (bounds : CarrierBounds) : Bool :=
  arguments.key.isSome && arguments.keyLength != 0 &&
    decide (arguments.keyLength ≤ bounds.maxTopicBytes) &&
    decide (arguments.payloadLength ≤ bounds.maxPayloadBytes) &&
    (arguments.payloadLength == 0 || arguments.payload.isSome)

def AdmitArguments.keyBytes (arguments : AdmitArguments) : Memory :=
  arguments.key.getD fun _ => 0

def AdmitArguments.payloadBytes (arguments : AdmitArguments) : Memory :=
  arguments.payload.getD fun _ => 0

/-- The frame an admit was passed. -/
def AdmitArguments.message (arguments : AdmitArguments) : Message where
  key := arguments.keyBytes.bytes arguments.keyLength
  payload := arguments.payloadBytes.bytes arguments.payloadLength

/-- The next operation of a producer, with the value of its local `write`. -/
inductive AdmitPhase where
  | idle
  | countOversized
  | reportOversized
  | loadWrite
  | loadRead (write : BitVec 32)
  | countDropped
  | reportDropped
  | exchange (write : BitVec 32)
  | copyKey (write : BitVec 32) (offset : Nat)
  | copyPayload (write : BitVec 32) (offset : Nat)
  | storeKeyLength (write : BitVec 32)
  | storePayloadLength (write : BitVec 32)
  | publish (write : BitVec 32)
  deriving DecidableEq

/-- A producer and what its current call has seen. The last three fields are
history: the number of won exchanges when the call began, when its `write` was
last loaded, and just before its own exchange won. -/
structure Producer where
  phase : AdmitPhase
  arguments : AdmitArguments
  claimsAtEntry : Nat
  observed : Nat
  ticket : Nat

def Producer.setPhase (producer : Producer) (phase : AdmitPhase) : Producer :=
  { producer with phase }

/-! ## Consumer -/

/-- The pointers and capacities of one poll. A length pointer is what it points to. -/
structure PollArguments where
  key : Option Memory
  keyCapacity : Nat
  keyLength : Option Nat
  payload : Option Memory
  payloadCapacity : Nat
  payloadLength : Option Nat

inductive PollPhase where
  | idle
  | loadRead
  | loadWrite (read : BitVec 32)
  | takeReportFull
  | takeReportOversized
  | loadPublished (read : BitVec 32)
  | checkLengths (read : BitVec 32)
  | copyKey (read : BitVec 32) (length offset : Nat)
  | copyPayload (read : BitVec 32) (length offset : Nat)
  | storeKeyLength (read : BitVec 32)
  | storePayloadLength (read : BitVec 32)
  | unpublish (read : BitVec 32)
  | advance (read : BitVec 32)
  deriving DecidableEq

/-- The consumer, the caller storage of its current poll, and its last result. -/
structure Consumer where
  phase : PollPhase
  key : Memory
  keyCapacity : Nat
  keyLength : Nat
  payload : Memory
  payloadCapacity : Nat
  payloadLength : Nat
  result : Option ZenohResult

/-! ## The system -/

/-- The queue, its threads, and the history of its two linearization points: the
frames whose admit won the exchange, and the frames polls returned. -/
structure QueueState where
  queue : ZenohPicoQueue
  producers : Nat → Producer
  consumer : Consumer
  claimed : List Message
  returned : List Message

def QueueState.initial : QueueState where
  queue := .zeroed
  producers := fun _ => ⟨.idle, ⟨none, 0, none, 0⟩, 0, 0, 0⟩
  consumer := ⟨.idle, fun _ => 0, 0, 0, fun _ => 0, 0, 0, none⟩
  claimed := []
  returned := []

namespace QueueState
variable (s : QueueState)

/-- `write_index - read_index`. -/
def depth : Nat := (s.queue.writeIndex - s.queue.readIndex).toNat

def setProducer (i : Nat) (producer : Producer) : QueueState :=
  { s with producers := Function.update s.producers i producer }

def setPhase (i : Nat) (phase : AdmitPhase) : QueueState :=
  s.setProducer i ((s.producers i).setPhase phase)

def setConsumer (consumer : Consumer) : QueueState := { s with consumer }

def setFrame (slot : Nat) (frame : ZenohPicoFrame) : QueueState :=
  { s with queue := { s.queue with frames := Function.update s.queue.frames slot frame } }

/-- One operation of producer `i`. -/
def produce (config : QueueConfig) (i : Nat) : Option QueueState :=
  let producer := s.producers i
  let arguments := producer.arguments
  match producer.phase with
  | .idle => none
  | .countOversized => some
      ({ s with queue := { s.queue with oversized := s.queue.oversized + 1 } }.setPhase i
        .reportOversized)
  | .reportOversized => some
      ({ s with queue := { s.queue with reportOversized := 1 } }.setPhase i .idle)
  | .loadWrite => some (s.setProducer i
      { producer with phase := .loadRead s.queue.writeIndex, observed := s.claimed.length })
  | .loadRead write =>
      if config.capacity ≤ (write - s.queue.readIndex).toNat then
        some (s.setPhase i .countDropped)
      else some (s.setPhase i (.exchange write))
  | .countDropped => some
      ({ s with queue := { s.queue with dropped := s.queue.dropped + 1 } }.setPhase i
        .reportDropped)
  | .reportDropped => some
      ({ s with queue := { s.queue with reportFull := 1 } }.setPhase i .idle)
  | .exchange write =>
      if s.queue.writeIndex = write then
        some ({ s with
          queue := { s.queue with writeIndex := write + 1 }
          claimed := s.claimed ++ [arguments.message] }.setProducer i
            { producer with phase := .copyKey write 0, ticket := s.claimed.length })
      else
        -- A failed exchange leaves the current index in `write`.
        some (s.setProducer i
          { producer with phase := .loadRead s.queue.writeIndex, observed := s.claimed.length })
  | .copyKey write offset =>
      let frame := s.queue.frames (config.slot write)
      if offset < arguments.keyLength then
        some ((s.setFrame (config.slot write)
          { frame with key := Function.update frame.key offset (arguments.keyBytes offset) }).setPhase
            i (.copyKey write (offset + 1)))
      else some (s.setPhase i (.copyPayload write 0))
  | .copyPayload write offset =>
      let frame := s.queue.frames (config.slot write)
      if offset < arguments.payloadLength then
        some ((s.setFrame (config.slot write)
          { frame with
            payload := Function.update frame.payload offset (arguments.payloadBytes offset) }).setPhase
            i (.copyPayload write (offset + 1)))
      else some (s.setPhase i (.storeKeyLength write))
  | .storeKeyLength write =>
      let frame := s.queue.frames (config.slot write)
      some ((s.setFrame (config.slot write)
        { frame with keyLength := arguments.keyLength }).setPhase i (.storePayloadLength write))
  | .storePayloadLength write =>
      let frame := s.queue.frames (config.slot write)
      some ((s.setFrame (config.slot write)
        { frame with payloadLength := arguments.payloadLength }).setPhase i (.publish write))
  | .publish write =>
      let frame := s.queue.frames (config.slot write)
      some ((s.setFrame (config.slot write) { frame with published := 1 }).setPhase i .idle)

/-- The consumer leaves `zenoh_pico_queue_poll` with a result. -/
def finish (result : ZenohResult) : QueueState :=
  s.setConsumer { s.consumer with phase := .idle, result := some result }

def setPollPhase (phase : PollPhase) : QueueState :=
  s.setConsumer { s.consumer with phase }

/-- One operation of the consumer. -/
def consume (config : QueueConfig) : Option QueueState :=
  let consumer := s.consumer
  match consumer.phase with
  | .idle => none
  | .loadRead => some (s.setPollPhase (.loadWrite s.queue.readIndex))
  | .loadWrite read =>
      if read = s.queue.writeIndex then some (s.setPollPhase .takeReportFull)
      else some (s.setPollPhase (.loadPublished read))
  | .takeReportFull =>
      let s' := { s with queue := { s.queue with reportFull := 0 } }
      if s.queue.reportFull ≠ 0 then some (s'.finish .queueFull)
      else some (s'.setPollPhase .takeReportOversized)
  | .takeReportOversized =>
      let s' := { s with queue := { s.queue with reportOversized := 0 } }
      if s.queue.reportOversized ≠ 0 then some (s'.finish .frameTooLarge)
      else some (s'.finish .queueEmpty)
  | .loadPublished read =>
      if (s.queue.frames (config.slot read)).published = 0 then some (s.finish .queueEmpty)
      else some (s.setPollPhase (.checkLengths read))
  | .checkLengths read =>
      let frame := s.queue.frames (config.slot read)
      if consumer.keyCapacity < frame.keyLength ∨ consumer.payloadCapacity < frame.payloadLength then
        some (s.finish .invalidArgument)
      else some (s.setPollPhase (.copyKey read frame.keyLength 0))
  | .copyKey read length offset =>
      let frame := s.queue.frames (config.slot read)
      if offset < length then
        some (s.setConsumer { consumer with
          key := Function.update consumer.key offset (frame.key offset)
          phase := .copyKey read length (offset + 1) })
      else some (s.setPollPhase (.copyPayload read frame.payloadLength 0))
  | .copyPayload read length offset =>
      let frame := s.queue.frames (config.slot read)
      if offset < length then
        some (s.setConsumer { consumer with
          payload := Function.update consumer.payload offset (frame.payload offset)
          phase := .copyPayload read length (offset + 1) })
      else some (s.setPollPhase (.storeKeyLength read))
  | .storeKeyLength read =>
      let frame := s.queue.frames (config.slot read)
      some (s.setConsumer
        { consumer with keyLength := frame.keyLength, phase := .storePayloadLength read })
  | .storePayloadLength read =>
      let frame := s.queue.frames (config.slot read)
      some (s.setConsumer
        { consumer with payloadLength := frame.payloadLength, phase := .unpublish read })
  | .unpublish read =>
      let frame := s.queue.frames (config.slot read)
      some ((s.setFrame (config.slot read) { frame with published := 0 }).setPollPhase (.advance read))
  | .advance read =>
      let delivered : Message :=
        ⟨consumer.key.bytes consumer.keyLength, consumer.payload.bytes consumer.payloadLength⟩
      some ({ s with
        queue := { s.queue with readIndex := read + 1 }
        returned := s.returned ++ [delivered] }.finish .ok)

end QueueState

inductive QueueLabel where
  /-- Producer `i` calls `zenoh_pico_queue_admit`. -/
  | queueAdmit (i : Nat) (arguments : AdmitArguments)
  /-- Producer `i` calls `zenoh_pico_queue_note_oversized`. -/
  | noteOversized (i : Nat)
  | produce (i : Nat)
  /-- The consumer calls `zenoh_pico_queue_poll`. -/
  | poll (arguments : PollArguments)
  | consume

/-- One step of the system. A thread that is inside a call starts no other. -/
def QueueState.next (config : QueueConfig) (s : QueueState) : QueueLabel → Option QueueState
  | .queueAdmit i arguments =>
      if (s.producers i).phase = .idle then
        some (s.setProducer i { s.producers i with
          phase := if arguments.fits config.toCarrierBounds then .loadWrite else .countOversized
          arguments
          claimsAtEntry := s.claimed.length })
      else none
  | .noteOversized i =>
      if (s.producers i).phase = .idle then
        some (s.setProducer i
          { s.producers i with phase := .countOversized, claimsAtEntry := s.claimed.length })
      else none
  | .produce i => s.produce config i
  | .poll arguments =>
      if s.consumer.phase = .idle then
        match arguments.key, arguments.keyLength, arguments.payload, arguments.payloadLength with
        | some key, some keyLength, some payload, some payloadLength => some (s.setConsumer
            { phase := .loadRead, key, keyCapacity := arguments.keyCapacity, keyLength,
              payload, payloadCapacity := arguments.payloadCapacity, payloadLength, result := none })
        | _, _, _, _ => some (s.finish .invalidArgument)
      else none
  | .consume => s.consume config

end AxolotyEmbedded.Zenoh
