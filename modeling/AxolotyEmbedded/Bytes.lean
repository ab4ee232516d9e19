import Mathlib.Logic.Function.Basic
import Mathlib.Data.List.Basic

/-!
Borrowed storage, messages and the composed bounds, shared by both transports.
A C pointer that is not null is the memory it addresses; the length a call
passes beside it says how much of that memory the call may touch.
-/
namespace AxolotyEmbedded

/-- The bytes at each offset from one address. -/
abbrev Memory := Nat → UInt8

namespace Memory

/-- The first `length` bytes as a value. -/
def bytes (memory : Memory) (length : Nat) : List UInt8 :=
  (List.range length).map memory

/-- `memcpy` of `length` bytes over the start of `target`. -/
def copy (target source : Memory) (length : Nat) : Memory :=
  fun offset => if offset < length then source offset else target offset

/-- Memory that starts with the bytes of a value. -/
def ofList (value : List UInt8) : Memory := fun offset => value.getD offset 0

@[simp] theorem length_bytes (memory : Memory) (length : Nat) :
    (memory.bytes length).length = length := by
  simp [bytes]

theorem bytes_congr {first second : Memory} {length : Nat}
    (same : ∀ offset < length, first offset = second offset) :
    first.bytes length = second.bytes length :=
  List.map_congr_left fun offset inside => same offset (List.mem_range.mp inside)

@[simp] theorem bytes_copy (target source : Memory) (length : Nat) :
    (target.copy source length).bytes length = source.bytes length :=
  bytes_congr fun offset inside => by simp [copy, inside]

@[simp] theorem bytes_ofList (value : List UInt8) : (ofList value).bytes value.length = value := by
  refine List.ext_getElem (length_bytes ..) fun offset _ inside => ?_
  simp [bytes, ofList, inside]

/-- Storing the byte at `stored` extends agreement by one offset. -/
theorem agree_update {target source : Memory} {stored : Nat}
    (agree : ∀ offset < stored, target offset = source offset) :
    ∀ offset < stored + 1,
      Function.update target stored (source stored) offset = source offset := by
  intro offset inside
  by_cases last : offset = stored
  · rw [last, Function.update_self]
  · rw [Function.update_of_ne last]
    exact agree offset (by omega)

end Memory

/-- One complete frame: its key and its payload. -/
structure Message where
  key : List UInt8
  payload : List UInt8
  deriving DecidableEq, Repr

/-- `AXOLOTY_CARRIER_MAX_TOPIC_BYTES` and `AXOLOTY_CARRIER_MAX_PAYLOAD_BYTES`, which
the build requires to be positive. -/
structure CarrierBounds where
  maxTopicBytes : Nat
  maxPayloadBytes : Nat
  topicPositive : 0 < maxTopicBytes
  payloadPositive : 0 < maxPayloadBytes

/-- The bounds of the smoke application. -/
def smokeBounds : CarrierBounds := ⟨256, 2048, by decide, by decide⟩

/-! ## Poll calls -/

/-- The storage a poll call lends: what it holds and the two reported lengths. -/
structure CallerStorage where
  topic : Memory
  topicLength : Int
  payload : Memory
  payloadLength : Int

/-- The message a caller reads from its storage after a frame. -/
def CallerStorage.message (storage : CallerStorage) : Message where
  key := storage.topic.bytes storage.topicLength.toNat
  payload := storage.payload.bytes storage.payloadLength.toNat

/-- Storage a caller has not written. -/
def blankStorage : CallerStorage := ⟨fun _ => 0, 0, fun _ => 0, 0⟩

/-- The two capacities, both `Int32`. -/
structure PollCapacities where
  topic : Int
  payload : Int
  deriving DecidableEq, Repr

def PollCapacities.Admitted (capacities : PollCapacities) (bounds : CarrierBounds) : Prop :=
  0 < capacities.topic ∧ capacities.topic ≤ bounds.maxTopicBytes ∧
    0 ≤ capacities.payload ∧ capacities.payload ≤ bounds.maxPayloadBytes

instance (capacities : PollCapacities) (bounds : CarrierBounds) :
    Decidable (capacities.Admitted bounds) := inferInstanceAs (Decidable (_ ∧ _))

/-- A frame that these buffers have room for. -/
def PollCapacities.Holds (capacities : PollCapacities) (message : Message) : Prop :=
  message.key ≠ [] ∧ (message.key.length : Int) ≤ capacities.topic ∧
    (message.payload.length : Int) ≤ capacities.payload

instance (capacities : PollCapacities) (message : Message) :
    Decidable (capacities.Holds message) := inferInstanceAs (Decidable (_ ∧ _))

end AxolotyEmbedded
